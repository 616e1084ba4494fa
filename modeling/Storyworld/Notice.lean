import Storyworld.Fault

/-!
Notices that a computation leaves behind, in order. They stay also when it fails.
-/

namespace Storyworld

inductive Level where
  | warning
  | error
  deriving Repr, DecidableEq

def Level.name : Level → String
  | warning => "WARNING"
  | error => "ERROR"

structure Notice where
  level : Level
  message : String
  deriving Repr, DecidableEq

/-- A computation that may fail and that adds to the notices. -/
abbrev Noting (ε : Type) := ExceptT ε (StateM (List Notice))

variable {ε δ α : Type}

def warn (message : String) : Noting ε Unit :=
  modifyThe (List Notice) (· ++ [⟨.warning, message⟩])

def report (message : String) : Noting ε Unit :=
  modifyThe (List Notice) (· ++ [⟨.error, message⟩])

def Noting.ofExcept : Except ε α → Noting ε α
  | .ok a => pure a
  | .error e => throw e

/-- The result and the notices of a computation. -/
def Noting.outcome (x : Noting ε α) : Except ε α × List Notice :=
  (x.run).run []

/-- The same computation with its failures seen as another type. -/
def Noting.adapt (f : ε → δ) (x : Noting ε α) : Noting δ α :=
  ExceptT.adapt f x

/-- The failure of a computation as a result. -/
def Noting.attempt (x : Noting ε α) : Noting δ (Except ε α) :=
  fun notes => let (r, notes) := (x.run).run notes; (.ok r, notes)

end Storyworld
