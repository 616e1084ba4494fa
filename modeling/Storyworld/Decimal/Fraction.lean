import Storyworld.Decimal.Binary
import Storyworld.Decimal.Whole

/-!
Floating-point numbers read from decimal text.
-/

namespace Storyworld.Decimal

/-- Characters of a run of digits as plain digits, and the rest. -/
def spanDigits (isDigit : Char → Bool) : List Char → List Char × List Char
  | [] => ([], [])
  | c :: cs =>
    if isDigit c then
      let (a, b) := spanDigits isDigit cs
      (c :: a, b)
    else ([], c :: cs)

def digitValues (cs : List Char) : List Nat :=
  cs.filterMap Text.digitValue?

/-- The number `whole.fraction · 10^exponent`, rounded. An exponent beyond every power that has a
value is cut off before the power is taken. -/
def ofDigits (negative : Bool) (whole fraction : List Nat) (exponent : Int) : Float :=
  let n := valueOf (whole ++ fraction)
  let e := exponent - fraction.length
  let size := whole.length + fraction.length
  if n = 0 then ofRatio negative 0 1
  else if 310 < e then infinity negative
  else if e + size < -330 then ofRatio negative 0 1
  else if 0 ≤ e then ofRatio negative (n * pow10 e.toNat) 1
  else ofRatio negative n (pow10 (-e).toNat)

/-- The exponent part: empty, or a mark, an optional sign and digits up to the end. -/
def exponentOf? : List Char → Option Int
  | [] => some 0
  | c :: cs =>
    if c == 'e' || c == 'E' then
      let (negative, body) := splitSign cs
      if body.isEmpty || !body.all Char.isDigit then none
      else
        let ds := digitValues (body.dropWhile (· == '0'))
        -- more digits than these shift every number out of range
        let n : Int := if 20 < ds.length then pow10 20 else valueOf ds
        some (if negative then -n else n)
    else none

/-- Digits with at most one point among them, at least one digit, and an exponent. -/
def unsigned? (negative : Bool) (cs : List Char) : Option Float :=
  let (whole, rest) := spanDigits Char.isDigit cs
  let (fraction, rest) := match rest with
    | '.' :: rest => spanDigits Char.isDigit rest
    | rest => ([], rest)
  if whole.isEmpty && fraction.isEmpty then none
  else
    (exponentOf? rest).map fun e =>
      ofDigits negative (digitValues whole) (digitValues fraction) e

def lowerAscii (cs : List Char) : String :=
  String.ofList (cs.map Char.toLower)

/-- Plain ASCII text: an optional sign, then a number or the name of one that is not finite. -/
def asciiFloat? (cs : List Char) : Option Float :=
  let (negative, body) := splitSign cs
  let name := lowerAscii body
  if name == "inf" || name == "infinity" then some (infinity negative)
  else if name == "nan" then some nan
  else unsigned? negative body

/-- An underscore is dropped if it stands between two digits; elsewhere it is kept. -/
def dropUnderscores : Bool → List Char → List Char
  | _, [] => []
  | digitBefore, '_' :: c :: cs =>
    if digitBefore && c.isDigit then c :: dropUnderscores true cs
    else '_' :: c :: dropUnderscores c.isDigit cs
  | _, c :: cs => c :: dropUnderscores c.isDigit cs

/-- Digits of every script as plain digits. -/
def plainDigits (cs : List Char) : List Char :=
  cs.map fun c => match Text.digitValue? c with
    | some d => Char.ofNat (48 + d)
    | none => c

/-- Reads a number with blanks around it, digits of any script and single underscores between
digits. -/
def readFloat? (cs : List Char) : Option Float :=
  asciiFloat? (dropUnderscores false (plainDigits (trimNumber cs)))

end Storyworld.Decimal
