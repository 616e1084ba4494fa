import Storyworld.Decimal.Shortest

/-!
How a floating-point number is laid out as text. A layout says for which places of the point the
number is written without an exponent, how wide an exponent is, and how numbers that are not
finite are spelled.
-/

namespace Storyworld.Decimal

structure Layout where
  /-- Below this place of the point, or at it, an exponent is written. -/
  lowest : Int
  /-- Above this place of the point an exponent is written. -/
  highest : Int
  exponentWidth : Nat
  nan : String
  infinity : String
  negativeInfinity : String

/-- The layout of numbers in messages and on the screen. -/
def plainLayout : Layout := ⟨-4, 16, 2, "nan", "inf", "-inf"⟩

/-- The layout of numbers in rule documents. -/
def documentLayout : Layout := ⟨-4, 16, 2, "NaN", "Infinity", "-Infinity"⟩

/-- The layout of numbers in save files, where a number that is not finite has no value. -/
def saveLayout : Layout := ⟨-5, 16, 1, "null", "null", "null"⟩

def padLeft (width : Nat) (s : String) : String :=
  String.ofList (List.replicate (width - s.length) '0') ++ s

def exponentText (l : Layout) (e : Int) : String :=
  "e" ++ (if e < 0 then "-" else "+") ++ padLeft l.exponentWidth e.natAbs.repr

/-- Digits with the point after the first `place` of them. -/
def Layout.digitsText (l : Layout) (d : Digits) : String :=
  let ds := d.digits.repr.toList
  let place : Int := ds.length + d.exponent
  let zeros (n : Int) := List.replicate n.toNat '0'
  if l.lowest < place ∧ place ≤ l.highest then
    if place ≤ 0 then "0." ++ String.ofList (zeros (-place) ++ ds)
    else if ds.length ≤ place then
      String.ofList (ds ++ zeros (place - ds.length)) ++ ".0"
    else String.ofList (ds.take place.toNat ++ '.' :: ds.drop place.toNat)
  else
    let body := match ds with
      | [] => []
      | [c] => [c]
      | c :: cs => c :: '.' :: cs
    String.ofList body ++ exponentText l (place - 1)

def Layout.text (l : Layout) (x : Float) : String :=
  match parts x with
  | .notANumber => l.nan
  | .infinite negative => if negative then l.negativeInfinity else l.infinity
  | .finite negative m e =>
    (if negative then "-" else "") ++
      (if m = 0 then "0.0" else l.digitsText (shortest m e))

end Storyworld.Decimal
