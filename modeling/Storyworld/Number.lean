import Storyworld.Decimal.Binary
import Storyworld.Value

/-!
Numbers that are whole or floating-point. Whole numbers have any size and stay exact as long as
only whole numbers take part; a floating-point operand makes the result one. Comparison is exact
in every case, and nothing compares with NaN.
-/

namespace Storyworld

inductive Number where
  | int (i : Int)
  | float (x : Float)
  deriving Inhabited

namespace Number

def toValue : Number → Value
  | int i => .int i
  | float x => .float x

def toFloat : Number → Except Fault Float
  | int i => Decimal.ofWhole i
  | float x => .ok x

def plain : Number → Except Fault String
  | int i => Decimal.writeWhole i
  | float x => .ok (Decimal.plainLayout.text x)

def isFinite : Number → Bool
  | int _ => true
  | float x => Decimal.isFinite x

def isZero : Number → Bool
  | int i => i == 0
  | float x => x == 0.0

def compareFloats (x y : Float) : Option Ordering :=
  if x < y then some .lt
  else if x == y then some .eq
  else if y < x then some .gt
  else none

def cmp : Number → Number → Option Ordering
  | int a, int b => some (compare a b)
  | int a, float y => Decimal.compareWith a y
  | float x, int b => (Decimal.compareWith b x).map Ordering.swap
  | float x, float y => compareFloats x y

def lt (a b : Number) : Bool := cmp a b == some .lt

def gt (a b : Number) : Bool := cmp a b == some .gt

def le (a b : Number) : Bool := lt a b || cmp a b == some .eq

def ge (a b : Number) : Bool := gt a b || cmp a b == some .eq

def eq (a b : Number) : Bool := cmp a b == some .eq

theorem lt_int (a b : Int) : lt (int a) (int b) = decide (a < b) := by
  rw [Bool.eq_iff_iff]
  simp [lt, cmp, Int.compare_eq_lt]

theorem gt_int (a b : Int) : gt (int a) (int b) = decide (b < a) := by
  rw [Bool.eq_iff_iff]
  simp [gt, cmp, Int.compare_eq_gt]

theorem eq_int (a b : Int) : eq (int a) (int b) = decide (a = b) := by
  rw [Bool.eq_iff_iff]
  simp [eq, cmp]

/-- Whole operands give a whole result, others are turned into floating-point numbers first. -/
def combine (whole : Int → Int → Int) (real : Float → Float → Float) (a b : Number) :
    Except Fault Number :=
  match a, b with
  | int a, int b => .ok (int (whole a b))
  | a, b => do
    let x ← a.toFloat
    let y ← b.toFloat
    return float (real x y)

def add : Number → Number → Except Fault Number :=
  combine (· + ·) (· + ·)

def sub : Number → Number → Except Fault Number :=
  combine (· - ·) (· - ·)

def mul : Number → Number → Except Fault Number :=
  combine (· * ·) (· * ·)

theorem add_int (a b : Int) : add (int a) (int b) = .ok (int (a + b)) := rfl

theorem sub_int (a b : Int) : sub (int a) (int b) = .ok (int (a - b)) := rfl

/-- The quotient is a floating-point number also of whole operands. The divisor is not zero. -/
def div (a b : Number) : Except Fault Number :=
  match a, b with
  | int a, int b => return float (← Decimal.quotient a b)
  | a, b => do
    let x ← a.toFloat
    let y ← b.toFloat
    return float (x / y)

def rem (a b : Number) : Except Fault Number := do
  let x ← a.toFloat
  let y ← b.toFloat
  return float (← Decimal.remainder x y)

def neg : Number → Number
  | int i => int (-i)
  | float x => float (-x)

/-- The lesser of two numbers, the first one if they do not compare. -/
def min (a b : Number) : Number := if lt b a then b else a

/-- The greater of two numbers, the first one if they do not compare. -/
def max (a b : Number) : Number := if gt b a then b else a

end Number

namespace Value

/-- A value as a number; truth values count as one and zero. -/
def number? : Value → Option Number
  | bool b => some (.int (if b then 1 else 0))
  | int i => some (.int i)
  | float x => some (.float x)
  | _ => none

def numbersEqual (v w : Value) : Bool :=
  match v.number?, w.number? with
  | some a, some b => a.eq b
  | _, _ => false

mutual

/-- Equality of values inside lists and mappings, where a number that is not one equals itself. -/
def same : Value → Value → Bool
  | null, null => true
  | text s, text t => s == t
  | list xs, list ys => sameItems xs ys
  | mapping xs, mapping ys => xs.length == ys.length && sameEntries xs ys
  | float x, float y => x == y || x.isNaN && y.isNaN
  | v, w => numbersEqual v w

def sameItems : List Value → List Value → Bool
  | [], [] => true
  | v :: vs, w :: ws => same v w && sameItems vs ws
  | _, _ => false

/-- Every entry of the first has an equal partner in the second. -/
def sameEntries : List (String × Value) → List (String × Value) → Bool
  | [], _ => true
  | (k, v) :: rest, ws =>
    (match lookupLast k ws with
      | some w => same v w
      | none => false) && sameEntries rest ws

end

/-- Equality: numbers by their value whatever their kind, all else by kind and content. -/
def equal (v w : Value) : Bool :=
  match v, w with
  | float x, float y => x == y
  | v, w => same v w

/-- Equality that also tells truth values and numbers from each other and from all else. -/
def strictEqual (v w : Value) : Bool :=
  match v, w with
  | bool a, bool b => a == b
  | bool _, _ => false
  | _, bool _ => false
  | v, w => equal v w

end Value

end Storyworld
