import Storyworld.Decimal.Fraction
import Storyworld.Number
import Storyworld.Schema.Checked
import Storyworld.Text.Cut

/-!
Reading scalars. Numbers and truth values are also taken from each other and from text where
nothing is lost; a scalar that already is of a type stays as it is.
-/

namespace Storyworld.Schema

def text : Reader String
  | .text s => .fits s
  | _ => .misfit .text

/-- One of a fixed list of names. -/
def choice {α : Type} (names : List (String × α)) : Reader α
  | .text s =>
    match lookupLast s names with
    | some a => .fits a
    | none => .misfit .choice
  | _ => .misfit .choice

def trueNames : List String := ["1", "t", "y", "yes", "on", "true"]

def falseNames : List String := ["0", "f", "n", "no", "off", "false"]

def truthOfText (s : String) : Checked Bool :=
  let name := Decimal.lowerAscii s.toList
  if trueNames.contains name then .fits true
  else if falseNames.contains name then .fits false
  else .misfit .truthFormat

def truthOfWhole (i : Int) : Checked Bool :=
  if i = 0 then .fits false else if i = 1 then .fits true else .misfit .truthFormat

def truth : Reader Bool
  | .bool b => .fits b
  | .int i => truthOfWhole i
  | .float x =>
    match Decimal.toWhole? x with
    | some i => truthOfWhole i
    | none => .misfit .truth
  | .text s => truthOfText s
  | _ => .misfit .truth

/-- The digits before a point that zeros follow and nothing else. -/
def withoutZeroFraction? (cs : List Char) : Option (List Char) :=
  match Text.cutAt '.' cs with
  | some (whole, fraction) =>
    if !fraction.isEmpty && fraction.all (· == '0') then some whole else none
  | none => some cs

def wholeOfText (s : String) : Checked Int :=
  let (negative, body) := Decimal.splitSign (Text.trimBy Text.isWhiteSpace s.toList)
  match withoutZeroFraction? body with
  | some whole =>
    if whole.all fun c => c.isDigit || c == '_' then
      match Decimal.digitsOf? whole with
      | some ds =>
        if Decimal.digitLimit < ds.length then .misfit .wholeSize
        else
          let n : Int := Decimal.valueOf ds
          .fits (if negative then -n else n)
      | none => .misfit .wholeFormat
    else .misfit .wholeFormat
  | none => .misfit .wholeFormat

def wholeOfFloat (x : Float) : Checked Int :=
  if Decimal.isFinite x then
    match Decimal.toWhole? x with
    | some i => if i.natAbs < Decimal.pow2 63 then .fits i else .misfit .wholeSize
    | none => .misfit .wholeFromFloat
  else .misfit .finite

def whole : Reader Int
  | .int i => .fits i
  | .bool b => .fits (if b then 1 else 0)
  | .float x => wholeOfFloat x
  | .text s => wholeOfText s
  | _ => .misfit .whole

/-- Underscores may stand between other characters, one at a time. -/
def withoutUnderscores? (cs : List Char) : Option (List Char) :=
  let misplaced := cs.head? == some '_' || cs.getLast? == some '_' ||
    (cs.zip cs.tail).any fun p => p.1 == '_' && p.2 == '_'
  if misplaced then none else some (cs.filter (· != '_'))

def floatOfText (s : String) : Checked Float :=
  let body := Text.trimBy Text.isWhiteSpace s.toList
  match Decimal.asciiFloat? body with
  | some x => .fits x
  | none =>
    match (withoutUnderscores? body).bind Decimal.asciiFloat? with
    | some x => .fits x
    | none => .misfit .floatFormat

/-- Only what is neither whole nor floating-point already gets here. -/
def floatOf : Reader Float
  | .text s => floatOfText s
  | _ => .misfit .float

/-- The first reading that fits, or the misfits of all, each under the name of its type. -/
def orElse {α : Type} (name : String) (first : Checked α) (others : Checked α) : Checked α :=
  match first, others with
  | .fits a, _ => .fits a
  | .misfits _, .fits a => .fits a
  | .misfits ms, .misfits ns => .misfits (ms.map (fun m => ⟨m.kind, m.path ++ [.key name]⟩) ++ ns)

def lastChoice {α : Type} (name : String) : Checked α → Checked α
  | .fits a => .fits a
  | .misfits ms => .misfits (ms.map fun m => ⟨m.kind, m.path ++ [.key name]⟩)

/-- A number of either kind: a text is taken as a whole number if it can be. -/
def number : Reader Number
  | .int i => .fits (.int i)
  | .float x => .fits (.float x)
  | v => orElse "int" ((whole v).map .int) (lastChoice "float" ((floatOf v).map .float))

end Storyworld.Schema
