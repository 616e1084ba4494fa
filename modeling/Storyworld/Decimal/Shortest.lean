import Storyworld.Decimal.Binary

/-!
The shortest decimal digits that read back as a given floating-point number. Of several shortest
ones the nearest to the number is taken.
-/

namespace Storyworld.Decimal

/-- The number `digits · 10^exponent`. -/
structure Digits where
  digits : Nat
  exponent : Int
  deriving Repr, DecidableEq, Inhabited

/-- The numbers that round to `m · 2^e` lie between `low` and `high` quarters of `2^e`; the ends
belong to them if `m` is even. -/
structure Interval where
  low : Nat
  mid : Nat
  high : Nat
  exponent : Int
  closed : Bool

def intervalOf (m : Nat) (e : Int) : Interval :=
  let low := if m = pow2 52 ∧ -1074 < e then 4 * m - 1 else 4 * m - 2
  ⟨low, 4 * m, 4 * m + 2, e - 2, m % 2 == 0⟩

/-- `d · 10^k` and the interval's quarters on one scale, as integers. -/
def onScale (iv : Interval) (k : Int) : Nat × Nat :=
  let ten := pow10 k.natAbs
  let two := pow2 iv.exponent.natAbs
  ((if 0 ≤ k then ten else 1) * (if 0 ≤ iv.exponent then 1 else two),
    (if 0 ≤ k then 1 else ten) * (if 0 ≤ iv.exponent then two else 1))

def Interval.holds (iv : Interval) (k : Int) (d : Nat) : Bool :=
  let (unit, quarter) := onScale iv k
  let x := d * unit
  if iv.closed then iv.low * quarter ≤ x && x ≤ iv.high * quarter
  else iv.low * quarter < x && x < iv.high * quarter

/-- The neighbour of the number among the multiples of `10^k` that lies in the interval. -/
def Interval.pick? (iv : Interval) (k : Int) : Option Nat :=
  let (unit, quarter) := onScale iv k
  let x := iv.mid * quarter
  let d := x / unit
  let below := iv.holds k d
  let above := iv.holds k (d + 1)
  if below && above then
    let up := (d + 1) * unit - x
    let down := x - d * unit
    some (if down < up || down == up && d % 2 == 0 then d else d + 1)
  else if below then some d
  else if above then some (d + 1)
  else none

/-- An exponent `k` with `10^(k-1) ≤ x < 10^k` for the middle of the interval, up to one. -/
def Interval.magnitude (iv : Interval) : Int :=
  let bits : Int := iv.mid.log2 + iv.exponent
  -- the decimal logarithm of two is a little more than 30102 / 100000
  let guess := bits * 30102 / 100000 - 1
  let step (k : Int) : Int :=
    let (unit, quarter) := onScale iv k
    if unit ≤ iv.mid * quarter then k + 1 else k
  step (step (step guess))

def stripZeros : Nat → Nat → Int → Digits
  | 0, d, k => ⟨d, k⟩
  | fuel + 1, d, k => if d % 10 = 0 then stripZeros fuel (d / 10) (k + 1) else ⟨d, k⟩

/-- Digits of `m · 2^e` with `m` positive. -/
def shortest (m : Nat) (e : Int) : Digits :=
  let iv := intervalOf m e
  let top := iv.magnitude
  let hit := (List.range 17).findSome? fun n =>
    let k := top - (n + 1 : Nat)
    (iv.pick? k).bind fun d => if d = 0 then none else some (d, k)
  match hit with
  | some (d, k) => stripZeros 20 d k
  | none => ⟨m, e⟩

end Storyworld.Decimal
