import ImageRetention.Run
import ImageRetention.World

/-
Reading files, each read an event.
-/

namespace ImageRetention

variable {σ : Type}

/-- The bytes of a file. -/
def World.read (world : World σ) (path : String) (event : Event) : Run σ (List UInt8) :=
  fun state => ⟨state, [event], (world.contents path).mapError Failure.ofIo⟩

end ImageRetention
