import Storyworld.Number

/-!
Issues that a check of a document finds. What makes a game do nothing or go wrong is an error; what
is only incomplete is a warning.
-/

namespace Storyworld.Check

inductive Severity where
  | error
  | warning
  deriving Repr, DecidableEq

def Severity.name : Severity → String
  | error => "error"
  | warning => "warning"

structure Issue where
  severity : Severity
  message : String
  path : Option String
  deriving Repr, DecidableEq

def Issue.text (i : Issue) : String :=
  "[" ++ i.severity.name ++ "] " ++ i.message ++
    match i.path with
    | some p => if p = "" then "" else " (" ++ p ++ ")"
    | none => ""

def hasErrors (issues : List Issue) : Bool :=
  issues.any fun i => i.severity == .error

def warningCount (issues : List Issue) : Nat :=
  (issues.filter fun i => i.severity == .warning).length

abbrev Issues := Except Fault (List Issue)

def anError (path message : String) : Issue := ⟨.error, message, some path⟩

def aWarning (path message : String) : Issue := ⟨.warning, message, some path⟩

/-- All issues of a list of checks, in order. -/
def all (checks : List Issues) : Issues :=
  (checks.mapM id).map List.flatten

/-- An issue unless something holds. -/
def demand (holds : Bool) (i : Issue) : List Issue :=
  if holds then [] else [i]

/-- A value that is there. -/
def isPresent : Value → Bool
  | .null => false
  | _ => true

def fieldIn (entries : Entries) (key : String) : Value :=
  (lookupLast key entries).getD .null

/-- A finite number that is not a truth value. A whole number has to be one that a floating-point
number can stand for. -/
def isNumber : Value → Except Fault Bool
  | .int i => (Decimal.ofWhole i).map fun _ => true
  | .float x => .ok (Decimal.isFinite x)
  | _ => .ok false

/-- The names that references are checked against. -/
structure Names where
  actions : List String
  tracks : List String
  situations : List String
  counters : List String

end Storyworld.Check
