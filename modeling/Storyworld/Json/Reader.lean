import Storyworld.Decimal.Fraction
import Storyworld.Json.Quote
import Storyworld.Text.Cut
import Storyworld.Value

/-!
Reading JSON. The numbers that are not finite have names here; whole numbers may be limited in
their digits. What cannot be read is reported with the place where reading stopped.
-/

namespace Storyworld.Json

inductive Cause where
  | expectedValue
  | expectedName
  | expectedColon
  | expectedComma
  | trailingText
  | byteOrderMark
  | quote (e : QuoteError)
  | loneHalf
  deriving Repr, DecidableEq

def Cause.message : Cause → String
  | expectedValue => "Expecting value"
  | expectedName => "Expecting property name enclosed in double quotes"
  | expectedColon => "Expecting ':' delimiter"
  | expectedComma => "Expecting ',' delimiter"
  | trailingText => "Extra data"
  | byteOrderMark => "Unexpected UTF-8 BOM (decode using utf-8-sig)"
  | quote .unclosed => "Unterminated string starting at"
  | quote .controlCharacter => "Invalid control character at"
  | quote .unknownEscape => "Invalid \\escape"
  | quote .badCodePoint => "Invalid \\uXXXX escape"
  | loneHalf => "Lone half of a pair"

/-- What stopped a step of reading; the text from there on tells the place. -/
inductive Stop where
  | misread (c : Cause) (rest : List Char)
  | fault (f : Fault)

structure Options where
  /-- The greatest number of digits of a whole number, if there is one. -/
  maxDigits : Option Nat
  /-- The character for a half of a pair that stands alone, if it may. -/
  loneHalf : Option Char

def isSpace (c : Char) : Bool :=
  c == ' ' || c == '\t' || c == '\n' || c == '\r'

def skipSpace (cs : List Char) : List Char :=
  cs.dropWhile isSpace

def words : List (String × Value) := [
    ("null", .null), ("true", .bool true), ("false", .bool false),
    ("NaN", .float Decimal.nan), ("Infinity", .float (Decimal.infinity false)),
    ("-Infinity", .float (Decimal.infinity true))]

def readWord? (cs : List Char) : Option (Value × List Char) :=
  words.findSome? fun w => (Text.stripLeading w.1.toList cs).map fun rest => (w.2, rest)

/-- The digits before a point, where a zero stands alone. -/
def splitWhole : List Char → List Char × List Char
  | '0' :: rest => (['0'], rest)
  | cs => Decimal.spanDigits Char.isDigit cs

/-- A point and digits, if there are digits after the point. -/
def splitFraction : List Char → List Char × List Char
  | '.' :: rest =>
    match Decimal.spanDigits Char.isDigit rest with
    | ([], _) => ([], '.' :: rest)
    | r => r
  | cs => ([], cs)

def splitExponent (cs : List Char) : Option Int × List Char :=
  match cs with
  | c :: rest =>
    if c = 'e' ∨ c = 'E' then
      let body := (Decimal.splitSign rest).2
      let (ds, after) := Decimal.spanDigits Char.isDigit body
      if ds.isEmpty then (none, cs)
      else (Decimal.exponentOf? (cs.take (cs.length - after.length)), after)
    else (none, cs)
  | [] => (none, [])

def wholeValue (o : Options) (negative : Bool) (ds : List Char) : Except Stop Value :=
  let n : Int := Decimal.valueOf (Decimal.digitValues ds)
  let v := .int (if negative then -n else n)
  match o.maxDigits with
  | some limit => if limit < ds.length then .error (.fault .tooManyDigits) else .ok v
  | none => .ok v

/-- A number: it is whole unless it has a fraction or an exponent. -/
def readNumber (o : Options) (cs : List Char) : Except Stop (Value × List Char) :=
  let (negative, body) := match cs with
    | '-' :: rest => (true, rest)
    | cs => (false, cs)
  let (whole, rest) := splitWhole body
  if whole.isEmpty then .error (.misread .expectedValue cs)
  else
    let (fraction, rest) := splitFraction rest
    let (exponent, rest) := splitExponent rest
    if fraction.isEmpty && exponent.isNone then
      (wholeValue o negative whole).map fun v => (v, rest)
    else
      .ok (.float (Decimal.ofDigits negative (Decimal.digitValues whole)
        (Decimal.digitValues fraction) (exponent.getD 0)), rest)

/-- The characters of a text whose halves stand in pairs or may stand alone. -/
def charsOf (o : Options) (units : List Nat) : Option (List Char) :=
  (joinHalves units).mapM fun c => match c with
    | some c => some c
    | none => o.loneHalf

/-- The text whose opening quote stands before `rest`; `start` has that quote. -/
def readText (o : Options) (start rest : List Char) : Except Stop (String × List Char) :=
  match unquote start rest with
  | .error (e, place) => .error (.misread (.quote e) place)
  | .ok (units, rest) =>
    match charsOf o units with
    | some cs => .ok (String.ofList cs, rest)
    | none => .error (.misread .loneHalf start)

mutual

def readValue (o : Options) : Nat → List Char → Except Stop (Value × List Char)
  | 0, cs => .error (.misread .expectedValue cs)
  | fuel + 1, cs =>
    match cs with
    | '"' :: rest => (readText o cs rest).map fun p => (.text p.1, p.2)
    | '[' :: rest =>
      match skipSpace rest with
      | ']' :: rest => .ok (.list [], rest)
      | rest => (readItems o fuel rest).map fun p => (.list p.1, p.2)
    | '\x7b' :: rest =>
      match skipSpace rest with
      | '\x7d' :: rest => .ok (.mapping [], rest)
      | rest => (readEntries o fuel rest).map fun p => (.mapping p.1, p.2)
    | cs =>
      match readWord? cs with
      | some r => .ok r
      | none => readNumber o cs

/-- The items of a list up to its end. -/
def readItems (o : Options) : Nat → List Char → Except Stop (List Value × List Char)
  | 0, cs => .error (.misread .expectedValue cs)
  | fuel + 1, cs => do
    let (v, rest) ← readValue o fuel cs
    match skipSpace rest with
    | ']' :: rest => return ([v], rest)
    | ',' :: rest =>
      let (vs, rest) ← readItems o fuel (skipSpace rest)
      return (v :: vs, rest)
    | rest => .error (.misread .expectedComma rest)

/-- The entries of a mapping up to its end. -/
def readEntries (o : Options) : Nat → List Char → Except Stop (Entries × List Char)
  | 0, cs => .error (.misread .expectedName cs)
  | fuel + 1, cs =>
    match cs with
    | '"' :: rest => do
      let (key, rest) ← readText o cs rest
      match skipSpace rest with
      | ':' :: rest =>
        let (v, rest) ← readValue o fuel (skipSpace rest)
        match skipSpace rest with
        | '\x7d' :: rest => return ([(key, v)], rest)
        | ',' :: rest =>
          let (es, rest) ← readEntries o fuel (skipSpace rest)
          return ((key, v) :: es, rest)
        | rest => .error (.misread .expectedComma rest)
      | rest => .error (.misread .expectedColon rest)
    | cs => .error (.misread .expectedName cs)

end

def readAll (o : Options) (cs : List Char) : Except Stop Value := do
  if cs.head? = some '\uFEFF' then .error (.misread .byteOrderMark cs)
  let (v, rest) ← readValue o (2 * cs.length + 2) (skipSpace cs)
  match skipSpace rest with
  | [] => return v
  | rest => .error (.misread .trailingText rest)

/-- Lines and columns count from one, offsets from zero. -/
structure Misread where
  cause : Cause
  line : Nat
  column : Nat
  offset : Nat
  deriving Repr, DecidableEq

def Misread.message (m : Misread) : String :=
  m.cause.message ++ ": line " ++ m.line.repr ++ " column " ++ m.column.repr ++
    " (char " ++ m.offset.repr ++ ")"

inductive Failure where
  | misread (m : Misread)
  | fault (f : Fault)
  deriving Repr, DecidableEq

/-- The place in `all` from which on `rest` is left. -/
def Misread.locate (c : Cause) (all rest : List Char) : Misread :=
  let offset := all.length - rest.length
  let before := all.take offset
  ⟨c, 1 + before.count '\n', 1 + (before.reverse.takeWhile (· != '\n')).length, offset⟩

def Stop.toFailure (all : List Char) : Stop → Failure
  | .misread c rest => .misread (.locate c all rest)
  | .fault f => .fault f

/-- A document as text. Of entries with one key the last counts, at the place of the first. -/
def readDocument (s : String) : Except Failure Value :=
  let cs := s.toList
  match readAll ⟨some Decimal.digitLimit, some '\uFFFD'⟩ cs with
  | .ok v => .ok v.merged
  | .error e => .error (e.toFailure cs)

def depthLimit : Nat := 200

/-- A save file as text. Entries with one key are all kept, and what is too deep is refused. -/
def readSave? (s : String) : Option Value :=
  match readAll ⟨some Decimal.digitLimit, none⟩ s.toList with
  | .ok v => if v.depth ≤ depthLimit then some v else none
  | .error _ => none

end Storyworld.Json
