import Storyworld.Decimal.Whole
import Storyworld.Pattern.Malformed
import Storyworld.Pattern.Node

/-!
The text of a pattern while it is read, piece by piece: a piece is a character, or a backslash with
the character after it. One piece is looked at in advance.
-/

namespace Storyworld.Pattern

inductive Piece where
  | plain (c : Char)
  | escaped (c : Char)
  deriving Repr, DecidableEq

def Piece.text : Piece → List Char
  | plain c => [c]
  | escaped c => ['\\', c]

def Piece.length : Piece → Nat
  | plain _ => 1
  | escaped _ => 2

def Piece.isAmong (chars : List Char) : Piece → Bool
  | plain c => chars.contains c
  | escaped _ => false

/-- What is known while a pattern is read. Widths are those of the groups from one on; a group that
is still open has none. -/
structure Progress where
  total : Nat
  next : Option Piece
  rest : List Char
  flags : Flags
  names : List (List Char × Nat)
  widths : List (Option Width)
  /-- The number of groups when the outermost look behind was begun. -/
  behind : Option Nat
  /-- Groups that conditions ask for, with the places. -/
  asked : List (Nat × Nat)

abbrev Parse := StateT Progress (Except Failure)

def Progress.place (p : Progress) : Nat :=
  p.total - p.rest.length - (p.next.map Piece.length).getD 0

def failAt {α : Type} (cause : Cause) (place : Nat) : Parse α :=
  throw (.malformed ⟨cause, some place⟩)

def here : Parse Nat := do
  return (← get).place

/-- A failure that many characters before the next piece. -/
def failBefore {α : Type} (cause : Cause) (offset : Nat) : Parse α := do
  failAt cause ((← here) - offset)

def next? : Parse (Option Piece) := do
  return (← get).next

/-- Looks at the piece after the next one. A lone backslash at the end fails here. -/
def advance : Parse Unit := do
  let p ← get
  match p.rest with
  | [] => set { p with next := none }
  | ['\\'] => failAt .escapeAtEnd (p.total - 1)
  | '\\' :: c :: rest => set { p with next := some (.escaped c), rest := rest }
  | c :: rest => set { p with next := some (.plain c), rest := rest }

def take? : Parse (Option Piece) := do
  let this ← next?
  advance
  return this

/-- Takes the next piece if it is the given character. -/
def accept (c : Char) : Parse Bool := do
  if (← next?) = some (.plain c) then
    advance
    return true
  else return false

/-- Takes at most so many of the given characters. -/
def takeSome (chars : List Char) : Nat → Parse (List Char)
  | 0 => return []
  | n + 1 => do
    match ← next? with
    | some p =>
      if p.isAmong chars then
        advance
        return p.text ++ (← takeSome chars n)
      else return []
    | none => return []

/-- As many characters as are left at most. -/
def takeAll (chars : List Char) : Parse (List Char) := do
  takeSome chars ((← get).rest.length + 2)

/-- Takes a name up to its end mark, which is taken too. -/
def takeName (stop : Char) (what : String) : Parse (List Char) := do
  let rec go (name : List Char) : Nat → Parse (List Char)
    | 0 => return name
    | n + 1 => do
      match ← take? with
      | none =>
        if name.isEmpty then failBefore (.missing what) 0
        else failBefore (.missing (String.singleton stop ++ ", unterminated name")) name.length
      | some p =>
        if p = .plain stop then
          if name.isEmpty then failBefore (.missing what) 1 else return name
        else go (name ++ p.text) n
  go [] ((← get).rest.length + 2)

/-- Goes back to a state of the text that was saved. -/
def restore (saved : Progress) : Parse Unit :=
  modify fun p => { p with next := saved.next, rest := saved.rest }

def groupCount : Parse Nat := do
  return (← get).widths.length + 1

/-- Whether a group exists and is closed. -/
def isClosed (index : Nat) : Parse Bool := do
  if index = 0 then return false
  return ((← get).widths[index - 1]?.getD none).isSome

/-- A look behind may not refer to groups that it opens itself. -/
def checkBehind (index : Nat) : Parse Unit := do
  match (← get).behind with
  | none => return
  | some count =>
    if !(← isClosed index) then failBefore .openGroup 0
    if count ≤ index then failBefore .groupInLookbehind 0

def openGroup (name : Option (List Char)) : Parse Nat := do
  let index ← groupCount
  modify fun p => { p with widths := p.widths ++ [none] }
  match name with
  | none => return index
  | some name =>
    match (← get).names.find? fun e => e.1 = name with
    | some e => failBefore (.renamedGroup name index e.2) (name.length + 1)
    | none =>
      modify fun p => { p with names := p.names ++ [(name, index)] }
      return index

def widthOf (widths : List (Option Width)) (index : Nat) : Width :=
  (widths[index - 1]?.getD none).getD ⟨0, 0⟩

def closeGroup (index : Nat) (body : Node) : Parse Unit :=
  modify fun p =>
    { p with widths := p.widths.set (index - 1) (some (body.width (widthOf p.widths))) }

end Storyworld.Pattern
