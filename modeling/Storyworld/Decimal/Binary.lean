import Storyworld.Decimal.Power
import Storyworld.Fault

/-!
Floating-point numbers of 64 bits as exact numbers `m · 2^e`, and rounding of exact quotients to
them, a half going to the even neighbour.
-/

namespace Storyworld.Decimal

inductive Parts where
  | finite (negative : Bool) (mantissa : Nat) (exponent : Int)
  | infinite (negative : Bool)
  | notANumber
  deriving Repr, DecidableEq, Inhabited

def partsOfBits (bits : Nat) : Parts :=
  let negative := pow2 63 ≤ bits
  let e : Nat := bits / pow2 52 % pow2 11
  let f : Nat := bits % pow2 52
  if e = 2047 then (if f = 0 then .infinite negative else .notANumber)
  else if e = 0 then .finite negative f (-1074)
  else .finite negative (pow2 52 + f) ((e : Int) - 1075)

def parts (x : Float) : Parts :=
  partsOfBits x.toBits.toNat

def infinity (negative : Bool) : Float :=
  Float.ofBits (if negative then 0xFFF0000000000000 else 0x7FF0000000000000)

def nan : Float :=
  Float.ofBits 0x7FF8000000000000

/-- The integer next to `num / den`, of two equally near ones the even one. -/
def roundHalfEven (num den : Nat) : Nat :=
  let q := num / den
  let r := num % den
  if 2 * r < den then q
  else if den < 2 * r then q + 1
  else if q % 2 = 0 then q else q + 1

/-- `num / (den · 2^e)` as a pair of numerator and denominator. -/
def scaled (num den : Nat) (e : Int) : Nat × Nat :=
  if 0 ≤ e then (num, den * pow2 e.toNat) else (num * pow2 (-e).toNat, den)

/-- The exponent at which `num / den` has 53 binary digits, or the least exponent if it is less. -/
def exponentFor (num den : Nat) : Int :=
  let e : Int := (num.log2 : Int) - (den.log2 : Int) - 52
  let (n, d) := scaled num den e
  max (if n / d < pow2 52 then e - 1 else e) (-1074)

/-- Bits of the number nearest to `num / den`, without the sign; none if it is too large. -/
def bitsOfRatio (num den : Nat) : Option Nat :=
  if num = 0 then some 0
  else
    let e := exponentFor num den
    let (n, d) := scaled num den e
    let m := roundHalfEven n d
    let (m, e) := if m = pow2 53 then (pow2 52, e + 1) else (m, e)
    if 971 < e then none
    else if m < pow2 52 then some m
    else some ((e + 1075).toNat * pow2 52 + (m - pow2 52))

def ofRatio? (negative : Bool) (num den : Nat) : Option Float :=
  (bitsOfRatio num den).map fun b =>
    Float.ofBits (UInt64.ofNat (if negative then pow2 63 + b else b))

/-- The number nearest to a quotient; beyond the largest number it is infinite. -/
def ofRatio (negative : Bool) (num den : Nat) : Float :=
  (ofRatio? negative num den).getD (infinity negative)

def ofWhole (i : Int) : Except Fault Float :=
  match ofRatio? (i < 0) i.natAbs 1 with
  | some x => .ok x
  | none => .error .wholeTooLarge

/-- The quotient of two whole numbers. It has the sign of a quotient also when it is zero. -/
def quotient (a b : Int) : Except Fault Float :=
  match ofRatio? (decide (a < 0) != decide (b < 0)) a.natAbs b.natAbs with
  | some x => .ok x
  | none => .error .quotientTooLarge

/-- A whole number compared with `± m · 2^e`. -/
def compareWhole (i : Int) (negative : Bool) (m : Nat) (e : Int) : Ordering :=
  let s : Int := if negative then -m else m
  if 0 ≤ e then compare i (s * pow2 e.toNat) else compare (i * pow2 (-e).toNat) s

/-- A whole number compared exactly with a floating-point number; nothing compares with NaN. -/
def compareWith (i : Int) (x : Float) : Option Ordering :=
  match parts x with
  | .finite negative m e => some (compareWhole i negative m e)
  | .infinite negative => some (if negative then .gt else .lt)
  | .notANumber => none

/-- The whole number that a floating-point number is, if it is one. -/
def toWhole? (x : Float) : Option Int :=
  match parts x with
  | .finite negative m e =>
    let s : Int := if negative then -m else m
    if 0 ≤ e then some (s * pow2 e.toNat)
    else if m % pow2 (-e).toNat = 0 then some (s / pow2 (-e).toNat)
    else none
  | _ => none

def isFinite (x : Float) : Bool :=
  match parts x with
  | .finite .. => true
  | _ => false

/-- The remainder of the division that rounds toward zero. It has the sign of the dividend. -/
def remainder (x y : Float) : Except Fault Float :=
  match parts x, parts y with
  | .finite negative m e, .finite _ n f =>
    let g := min e f
    let a := m * pow2 (e - g).toNat
    let b := n * pow2 (f - g).toNat
    let r := a % b
    .ok (if 0 ≤ g then ofRatio negative (r * pow2 g.toNat) 1
      else ofRatio negative r (pow2 (-g).toNat))
  | .finite .., .infinite _ => .ok x
  | .notANumber, _ => .ok nan
  | _, .notANumber => .ok nan
  | .infinite _, _ => .error .remainderUndefined

end Storyworld.Decimal
