import ImageRetention.Run
import ImageRetention.SortedSet

/-
Questions asked side by side, a bounded number of them at a time.

* `Pool`: the items not yet asked about, the answers under way, and what was found so far;
* `Schedule`: which of the possible moves is made at each step;
* `Pool.gather`: the union of what was found for all items, or the first failure to arrive.

A move starts any waiting item while fewer than the allowed number are under way, or takes
in any answer under way.  Every order in which answers can arrive is that of some schedule.
-/

namespace ImageRetention

/-- Work in progress on some items. -/
structure Pool (α β : Type) [Labelled β] where
  /-- The items not yet started. -/
  waiting : List α
  /-- The items under way, with the answers that will arrive. -/
  underWay : List (α × Except Failure (List β))
  /-- The union of all answers that have arrived. -/
  merged : SortedSet β

/-- A choice among the possible moves at each step, counted from zero.  Choices are taken
modulo the number of moves, so every one is possible. -/
def Schedule : Type := Nat → Nat

/-- The schedule that starts all it can, in order, and takes answers in the order of their
questions. -/
def Schedule.inOrder : Schedule := fun _ => 0

namespace Pool

variable {σ α β : Type} [Labelled β]

/-- A pool in which nothing has been started. -/
def ofItems (items : List α) : Pool α β := ⟨items, [], .empty⟩

/-- How many items can be started: all that wait, unless as many as allowed are under way.
One is always allowed. -/
def startable (limit : Nat) (pool : Pool α β) : Nat :=
  if pool.underWay.length < max 1 limit then pool.waiting.length else 0

/-- How many moves remain at most. -/
def remaining (pool : Pool α β) : Nat :=
  2 * pool.waiting.length + pool.underWay.length

/-- A pool after an item is started. -/
def start (pool : Pool α β) (index : Nat) (item : α) (answer : Except Failure (List β)) :
    Pool α β :=
  { pool with
    waiting := pool.waiting.eraseIdx index
    underWay := pool.underWay ++ [(item, answer)] }

/-- A pool after an answer has arrived. -/
def finish (pool : Pool α β) (index : Nat) (found : List β) : Pool α β :=
  { pool with
    underWay := pool.underWay.eraseIdx index
    merged := pool.merged.insertAll found }

theorem startable_le (limit : Nat) (pool : Pool α β) :
    pool.startable limit ≤ pool.waiting.length := by
  unfold startable
  split <;> simp

theorem remaining_start (pool : Pool α β) {index : Nat} (h : index < pool.waiting.length)
    (item : α) (answer : Except Failure (List β)) :
    (pool.start index item answer).remaining < pool.remaining := by
  simp only [remaining, start, List.length_eraseIdx, h, if_true, List.length_append,
    List.length_singleton]
  omega

theorem remaining_finish (pool : Pool α β) {index : Nat} (h : index < pool.underWay.length)
    (found : List β) : (pool.finish index found).remaining < pool.remaining := by
  simp only [remaining, finish, List.length_eraseIdx, h, if_true]
  omega

/-- Works a pool off, by the choices of a schedule from some step on. -/
def settle (limit : Nat) (ask : α → Run σ (List β)) (schedule : Schedule) (step : Nat)
    (pool : Pool α β) : Run σ (SortedSet β) :=
  let starts := pool.startable limit
  let moves := starts + pool.underWay.length
  if hMoves : moves = 0 then pure pool.merged
  else
    let choice := schedule step % moves
    if hStart : choice < starts then
      have hIndex : choice < pool.waiting.length :=
        Nat.lt_of_lt_of_le hStart (pool.startable_le limit)
      let item := pool.waiting[choice]
      (ask item).attempt >>= fun answer =>
        settle limit ask schedule (step + 1) (pool.start choice item answer)
    else
      have hIndex : choice - starts < pool.underWay.length := by
        have : choice < moves := Nat.mod_lt _ (Nat.pos_of_ne_zero hMoves)
        omega
      match pool.underWay[choice - starts].2 with
      | .error failure => Run.fail failure
      | .ok found =>
        settle limit ask schedule (step + 1) (pool.finish (choice - starts) found)
termination_by pool.remaining
decreasing_by
  · exact pool.remaining_start hIndex _ _
  · exact pool.remaining_finish hIndex _

/-- The union of what is found for all of some items. -/
def gather (limit : Nat) (schedule : Schedule) (ask : α → Run σ (List β)) (items : List α) :
    Run σ (SortedSet β) :=
  settle limit ask schedule 0 (ofItems items)

end Pool

end ImageRetention
