import Storyworld.Json.Quote
import Storyworld.Pattern.Source

/-!
Escapes in patterns, outside and inside of sets.
-/

namespace Storyworld.Pattern

def digitChars : List Char := "0123456789".toList

def octalChars : List Char := "01234567".toList

def hexChars : List Char := "0123456789abcdefABCDEF".toList

def isAsciiLetter (c : Char) : Bool :=
  c.isAlpha

def octalValue (ds : List Char) : Nat :=
  ds.foldl (fun n c => 8 * n + (c.toNat - 48)) 0

def hexValue (ds : List Char) : Nat :=
  ds.foldl (fun n c => 16 * n + (Json.hexValue? c).getD 0) 0

def controlEscape? (c : Char) : Option Nat :=
  match c with
  | 'a' => some 7
  | 'b' => some 8
  | 'f' => some 12
  | 'n' => some 10
  | 'r' => some 13
  | 't' => some 9
  | 'v' => some 11
  | '\\' => some 92
  | _ => none

def categoryEscape? (c : Char) : Option ClassPart :=
  match c with
  | 'd' => some (.category .digit false)
  | 'D' => some (.category .digit true)
  | 's' => some (.category .space false)
  | 'S' => some (.category .space true)
  | 'w' => some (.category .word false)
  | 'W' => some (.category .word true)
  | _ => none

def anchorEscape? (c : Char) : Option Anchor :=
  match c with
  | 'A' => some .textStart
  | 'Z' => some .textEnd
  | 'b' => some .boundary
  | 'B' => some .noBoundary
  | _ => none

/-- A code point of so many hexadecimal digits. -/
def hexEscape (text : List Char) (count : Nat) : Parse Nat := do
  let ds ← takeSome hexChars count
  let text := text ++ ds
  if ds.length < count then failBefore (.incompleteEscape text) text.length
  let n := hexValue ds
  if 0x10FFFF < n then failBefore (.badEscape text) text.length
  return n

/-- A character by its name. No names are known. -/
def namedEscape : Parse Nat := do
  if !(← accept '\x7b') then failBefore (.missing "\x7b") 0
  let name ← takeName '\x7d' "character name"
  failBefore (.undefinedCharacter name) (name.length + 4)

/-- An octal escape of at most three digits, the first of which is known. -/
def octalEscape (text : List Char) : Parse Nat := do
  let text := text ++ (← takeSome octalChars 2)
  let n := octalValue (text.drop 1)
  if 0o377 < n then failBefore (.octalTooLarge text) text.length
  return n

def letterEscape (c : Char) : Parse Nat :=
  if isAsciiLetter c then failBefore (.badEscape ['\\', c]) 2 else return c.toNat

/-- An escape inside of a set. -/
def classEscape (c : Char) : Parse ClassPart := do
  match controlEscape? c with
  | some n => return .char n
  | none =>
    match categoryEscape? c with
    | some part => return part
    | none =>
      let text := ['\\', c]
      if c = 'x' then return .char (← hexEscape text 2)
      else if c = 'u' then return .char (← hexEscape text 4)
      else if c = 'U' then return .char (← hexEscape text 8)
      else if c = 'N' then return .char (← namedEscape)
      else if octalChars.contains c then return .char (← octalEscape text)
      else if digitChars.contains c then failBefore (.badEscape text) 2
      else return .char (← letterEscape c)

/-- A reference to a group, in the text from the backslash on. -/
def reference (text : List Char) : Parse Node := do
  let index := Decimal.valueOf ((text.drop 1).filterMap Text.digitValue?)
  if index < (← groupCount) then
    if !(← isClosed index) then failBefore .openGroup text.length
    checkBehind index
    return .backref index false
  else failBefore (.unknownReference index) (text.length - 1)

/-- Three octal digits are a character; one or two digits refer to a group. -/
def digitEscape (c : Char) : Parse Node := do
  match ← next? with
  | some (.plain d) =>
    if digitChars.contains d then
      advance
      let text := ['\\', c, d]
      match ← next? with
      | some (.plain e) =>
        if octalChars.contains c && octalChars.contains d && octalChars.contains e then
          advance
          let text := text ++ [e]
          let n := octalValue (text.drop 1)
          if 0o377 < n then failBefore (.octalTooLarge text) text.length
          return .char n false
        else reference text
      | _ => reference text
    else reference ['\\', c]
  | _ => reference ['\\', c]

/-- An escape outside of sets. -/
def escape (c : Char) : Parse Node := do
  match anchorEscape? c, categoryEscape? c, controlEscape? c with
  | some a, _, _ => return .anchor a
  | _, some part, _ => return .set false [part]
  | _, _, some n => return .char n false
  | none, none, none =>
    let text := ['\\', c]
    if c = 'x' then return .char (← hexEscape text 2) false
    else if c = 'u' then return .char (← hexEscape text 4) false
    else if c = 'U' then return .char (← hexEscape text 8) false
    else if c = 'N' then return .char (← namedEscape) false
    else if c = '0' then
      return .char (octalValue ('0' :: (← takeSome octalChars 2))) false
    else if digitChars.contains c then digitEscape c
    else return .char (← letterEscape c) false

end Storyworld.Pattern
