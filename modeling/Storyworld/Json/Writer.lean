import Storyworld.Json.Quote
import Storyworld.Value

/-!
Writing JSON, on one line without spaces or with an indentation and a line for every item and
entry.
-/

namespace Storyworld.Json

structure Format where
  floats : Decimal.Layout
  indent : Option Nat

/-- Rule documents are written with an indentation of two. -/
def documentFormat : Format := ⟨Decimal.documentLayout, some 2⟩

def saveFormat (indent : Option Nat) : Format := ⟨Decimal.saveLayout, indent⟩

/-- The start of a line at a depth. -/
def Format.lineStart (f : Format) (depth : Nat) : List Char :=
  match f.indent with
  | some n => '\n' :: List.replicate (n * depth) ' '
  | none => []

def Format.colon (f : Format) : List Char :=
  if f.indent.isSome then [':', ' '] else [':']

mutual

def writeValue (f : Format) (depth : Nat) : Value → List Char
  | .null => ['n', 'u', 'l', 'l']
  | .bool true => ['t', 'r', 'u', 'e']
  | .bool false => ['f', 'a', 'l', 's', 'e']
  | .int i => i.repr.toList
  | .float x => (f.floats.text x).toList
  | .text s => quote s.toList
  | .list [] => ['[', ']']
  | .list items => '[' :: writeItems f (depth + 1) items ++ f.lineStart depth ++ [']']
  | .mapping [] => ['\x7b', '\x7d']
  | .mapping entries =>
    '\x7b' :: writeEntries f (depth + 1) entries ++ f.lineStart depth ++ ['\x7d']

def writeItems (f : Format) (depth : Nat) : List Value → List Char
  | [] => []
  | [v] => f.lineStart depth ++ writeValue f depth v
  | v :: w :: rest =>
    f.lineStart depth ++ writeValue f depth v ++ ',' :: writeItems f depth (w :: rest)

def writeEntries (f : Format) (depth : Nat) : List (String × Value) → List Char
  | [] => []
  | [(k, v)] => f.lineStart depth ++ quote k.toList ++ f.colon ++ writeValue f depth v
  | (k, v) :: e :: rest =>
    f.lineStart depth ++ quote k.toList ++ f.colon ++ writeValue f depth v ++
      ',' :: writeEntries f depth (e :: rest)

end

def write (f : Format) (v : Value) : String :=
  String.ofList (writeValue f 0 v)

/-- The text of a document file ends in a line break. -/
def writeDocument (v : Value) : String :=
  write documentFormat v ++ "\n"

end Storyworld.Json
