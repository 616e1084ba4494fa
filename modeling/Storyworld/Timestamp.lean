import Storyworld.Decimal.Fraction

/-!
Points in time, with or without an offset from universal time, and their text.
-/

namespace Storyworld

structure Timestamp where
  year : Nat
  month : Nat
  day : Nat
  hour : Nat
  minute : Nat
  second : Nat
  microsecond : Nat
  /-- The offset from universal time in microseconds. -/
  offset : Option Int
  deriving Repr, DecidableEq

namespace Timestamp

/-- The last `width` digits of a number. -/
def digits : Nat → Nat → List Char
  | 0, _ => []
  | width + 1, n => digits width (n / 10) ++ [Nat.digitChar (n % 10)]

/-- The part of a second, left out if it is zero. -/
def fractionText (microseconds : Nat) : List Char :=
  if microseconds = 0 then [] else '.' :: digits 6 microseconds

def offsetText (offset : Int) : List Char :=
  let n := offset.natAbs
  let seconds := n / 1000000
  (if offset < 0 then '-' else '+') :: digits 2 (seconds / 3600) ++
    ':' :: digits 2 (seconds / 60 % 60) ++
    (if n % 60000000 = 0 then []
      else ':' :: digits 2 (seconds % 60) ++ fractionText (n % 1000000))

def text (t : Timestamp) : String :=
  String.ofList <|
    digits 4 t.year ++ '-' :: digits 2 t.month ++ '-' :: digits 2 t.day ++
    'T' :: digits 2 t.hour ++ ':' :: digits 2 t.minute ++ ':' :: digits 2 t.second ++
    fractionText t.microsecond ++
    (match t.offset with
      | some offset => offsetText offset
      | none => [])

/-- A number of exactly `width` digits, and the rest. -/
def readDigits? (width : Nat) (cs : List Char) : Option (Nat × List Char) :=
  let ds := cs.take width
  if ds.length = width && ds.all Char.isDigit then
    some (Decimal.valueOf (Decimal.digitValues ds), cs.drop width)
  else none

/-- Two digits that follow, after a colon or at once; zero if there are none. -/
def readNext? : List Char → Option (Nat × List Char)
  | [] => some (0, [])
  | c :: rest =>
    if c = ':' then readDigits? 2 rest
    else if c.isDigit then readDigits? 2 (c :: rest)
    else some (0, c :: rest)

def microseconds (ds : List Char) : Nat :=
  Decimal.valueOf (Decimal.digitValues ((ds ++ List.replicate 6 '0').take 6))

/-- A time of day or an offset: hours and what else is given. -/
structure Clock where
  hour : Nat
  minute : Nat
  second : Nat
  microsecond : Nat

/-- Hours, minutes and seconds with a fraction, and the rest. -/
def readClock? (cs : List Char) : Option (Clock × List Char) := do
  let (hour, rest) ← readDigits? 2 cs
  let (minute, rest) ← readNext? rest
  let (second, rest) ← readNext? rest
  match rest with
  | [] => some (⟨hour, minute, second, 0⟩, [])
  | c :: rest =>
    if c = '.' ∨ c = ',' then
      let (ds, rest) := Decimal.spanDigits Char.isDigit rest
      if ds.isEmpty then none else some (⟨hour, minute, second, microseconds ds⟩, rest)
    else some (⟨hour, minute, second, 0⟩, c :: rest)

def Clock.total (c : Clock) : Int :=
  ((c.hour * 60 + c.minute) * 60 + c.second) * 1000000 + c.microsecond

def readOffset? : List Char → Option (Option Int)
  | [] => some none
  | ['Z'] => some (some 0)
  | sign :: rest =>
    if sign = '+' ∨ sign = '-' then
      match readClock? rest with
      | some (c, []) =>
        if c.total < 86400000000 then some (some (if sign = '-' then -c.total else c.total))
        else none
      | _ => none
    else none

def isLeap (year : Nat) : Bool :=
  year % 4 == 0 && (year % 100 != 0 || year % 400 == 0)

def daysOf (year month : Nat) : Nat :=
  if month = 2 then (if isLeap year then 29 else 28)
  else if month = 4 ∨ month = 6 ∨ month = 9 ∨ month = 11 then 30
  else 31

def isValid (t : Timestamp) : Bool :=
  1 ≤ t.year && 1 ≤ t.month && t.month ≤ 12 && 1 ≤ t.day && t.day ≤ daysOf t.year t.month &&
    t.hour < 24 && t.minute < 60 && t.second < 60

/-- Skips a hyphen if dates are written with hyphens. -/
def skipHyphen? (hyphens : Bool) (cs : List Char) : Option (List Char) :=
  if hyphens then
    match cs with
    | '-' :: rest => some rest
    | _ => none
  else some cs

/-- Reads a date, with hyphens or without, and a time of day after any one character. -/
def ofText? (s : String) : Option Timestamp := do
  let (year, rest) ← readDigits? 4 s.toList
  let hyphens := rest.head? == some '-'
  let (month, rest) ← readDigits? 2 (← skipHyphen? hyphens rest)
  let (day, rest) ← readDigits? 2 (← skipHyphen? hyphens rest)
  let t ← match rest with
    | [] => some ⟨year, month, day, 0, 0, 0, 0, none⟩
    | _ :: rest => do
      let (c, rest) ← readClock? rest
      let offset ← readOffset? rest
      some (Timestamp.mk year month day c.hour c.minute c.second c.microsecond offset)
  if t.isValid then some t else none

end Timestamp

end Storyworld
