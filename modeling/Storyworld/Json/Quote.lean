import Storyworld.Text.Quoted

/-!
Text between double quotes in JSON. Quotes, backslashes and control characters are escaped when
written; when read, two escaped halves of a pair beyond the basic plane stand for one character.
-/

namespace Storyworld.Json

def escape (c : Char) : List Char :=
  if c = '"' then ['\\', '"']
  else if c = '\\' then ['\\', '\\']
  else if c = '\n' then ['\\', 'n']
  else if c = '\r' then ['\\', 'r']
  else if c = '\t' then ['\\', 't']
  else if c = '\x0c' then ['\\', 'f']
  else if c = '\x08' then ['\\', 'b']
  else if c.toNat < 32 then '\\' :: 'u' :: Text.hexText 4 c.toNat
  else [c]

def quote (cs : List Char) : List Char :=
  '"' :: cs.flatMap escape ++ ['"']

/-- The character that a letter after a backslash stands for. -/
def plainEscape? (c : Char) : Option Nat :=
  if c = '"' ∨ c = '\\' ∨ c = '/' then some c.toNat
  else if c = 'b' then some 8
  else if c = 'f' then some 12
  else if c = 'n' then some 10
  else if c = 'r' then some 13
  else if c = 't' then some 9
  else none

def hexValue? (c : Char) : Option Nat :=
  let n := c.toNat
  if 48 ≤ n ∧ n ≤ 57 then some (n - 48)
  else if 97 ≤ n ∧ n ≤ 102 then some (n - 87)
  else if 65 ≤ n ∧ n ≤ 70 then some (n - 55)
  else none

def hexFour? (a b c d : Char) : Option Nat := do
  return ((← hexValue? a) * 16 + (← hexValue? b)) * 256 + (← hexValue? c) * 16 + (← hexValue? d)

inductive QuoteError where
  | unclosed
  | controlCharacter
  | unknownEscape
  | badCodePoint
  deriving Repr, DecidableEq

/-- Code points up to the closing quote and the text after it, or what is wrong and the text from
there on; `start` is the text from the opening quote on. -/
def unquote (start : List Char) :
    List Char → Except (QuoteError × List Char) (List Nat × List Char)
  | [] => .error (.unclosed, start)
  | c :: rest =>
    if c = '"' then .ok ([], rest)
    else if c = '\\' then
      match rest with
      | [] => .error (.unclosed, start)
      | e :: rest' =>
        if e = 'u' then
          match rest' with
          | h₁ :: h₂ :: h₃ :: h₄ :: next :: more =>
            match hexFour? h₁ h₂ h₃ h₄ with
            | some n => (unquote start (next :: more)).map fun p => (n :: p.1, p.2)
            | none => .error (.badCodePoint, rest)
          | _ => .error (.badCodePoint, rest)
        else
          match plainEscape? e with
          | some n => (unquote start rest').map fun p => (n :: p.1, p.2)
          | none => .error (.unknownEscape, c :: rest)
    else if c.toNat < 32 then .error (.controlCharacter, c :: rest)
    else (unquote start rest).map fun p => (c.toNat :: p.1, p.2)

def isHighHalf (n : Nat) : Bool := 0xD800 ≤ n && n ≤ 0xDBFF

def isLowHalf (n : Nat) : Bool := 0xDC00 ≤ n && n ≤ 0xDFFF

/-- Characters of code points. Two halves of a pair make one; a half alone has no character. -/
def joinHalves : List Nat → List (Option Char)
  | [] => []
  | [n] => [if isHighHalf n || isLowHalf n then none else some (Char.ofNat n)]
  | n :: m :: rest =>
    if isHighHalf n && isLowHalf m then
      some (Char.ofNat (0x10000 + (n - 0xD800) * 1024 + (m - 0xDC00))) :: joinHalves rest
    else if isHighHalf n || isLowHalf n then none :: joinHalves (m :: rest)
    else some (Char.ofNat n) :: joinHalves (m :: rest)

end Storyworld.Json
