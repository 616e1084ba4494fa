import Storyworld.Decimal.Power
import Storyworld.Fault
import Storyworld.Text.Blank
import Storyworld.Text.Digit

/-!
Whole numbers as decimal text. Writing and reading both stop at the same number of digits.
-/

namespace Storyworld.Decimal

def digitLimit : Nat := 4300

/-- A number is written only if it has no more digits than the limit. -/
def writeWhole (i : Int) : Except Fault String :=
  if i.natAbs < pow10 digitLimit then .ok i.repr else .error .tooManyDigits

theorem writeWhole_eq_ok {i : Int} (h : i.natAbs < pow10 digitLimit) :
    writeWhole i = .ok i.repr := if_pos h

def valueOf (ds : List Nat) : Nat :=
  ds.foldl (fun n d => 10 * n + d) 0

/-- Digits of one script or several; a single underscore may stand between two of them. -/
def digitsOf? : List Char → Option (List Nat)
  | [] => none
  | [c] => (Text.digitValue? c).map fun d => [d]
  | c :: '_' :: cs =>
    match Text.digitValue? c, digitsOf? cs with
    | some d, some ds => some (d :: ds)
    | _, _ => none
  | c :: cs =>
    match Text.digitValue? c, digitsOf? cs with
    | some d, some ds => some (d :: ds)
    | _, _ => none

/-- Blanks around a number: the wide class, but only the plain ones if all of the text is ASCII. -/
def trimNumber (cs : List Char) : List Char :=
  if Text.isAscii cs then Text.trimBy Text.isAsciiBlank cs else Text.trim cs

/-- The sign in front, `true` for a minus, and the rest. -/
def splitSign : List Char → Bool × List Char
  | '-' :: cs => (true, cs)
  | '+' :: cs => (false, cs)
  | cs => (false, cs)

/-- Reads an optional sign and digits; no number is read from more digits than the limit. -/
def readWhole (cs : List Char) : Except Fault (Option Int) :=
  let (negative, body) := splitSign (trimNumber cs)
  match digitsOf? body with
  | none => .ok none
  | some ds =>
    if digitLimit < ds.length then .error .tooManyDigits
    else
      let n : Int := valueOf ds
      .ok (some (if negative then -n else n))

/-- Reads a number where too many digits count as no number. -/
def readWhole? (cs : List Char) : Option Int :=
  match readWhole cs with
  | .ok r => r
  | .error _ => none

end Storyworld.Decimal
