import ImageRetention.Environment
import ImageRetention.Failure
import ImageRetention.Instant
import ImageRetention.Invocation

/-
The outside world a sweep runs in.

* `World`: the environment, the files, the programs that can be run and how they respond,
  the time, the number of processors, and the home directory of the account;
* `World.home?`: the home directory of the user.

The responses of programs may depend on all that was run before, through the state `σ`.
-/

namespace ImageRetention

/-- The outside world a sweep runs in. -/
structure World (σ : Type) where
  environment : Environment
  /-- Whether there is a file or directory at a path. -/
  existsAt : String → Bool
  /-- What is in the file at a path. -/
  contents : String → Except IoError (List UInt8)
  /-- Whether a program is found in an environment. -/
  isInstalled : Environment → String → Bool
  /-- How a program that is run responds. -/
  respond : σ → Invocation → σ × Response
  /-- The time it is. -/
  now : Instant
  /-- How many processors there are. -/
  processors : Nat
  /-- The home directory of the account, which holds where no variable names one. -/
  accountHome : Option String := none

namespace World

variable {σ : Type}

/-- The home directory of the user, if one is known. -/
def home? (world : World σ) : Option String :=
  (world.environment.nonEmpty? "HOME").or world.accountHome

end World

end ImageRetention
