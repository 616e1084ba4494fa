import Storyworld.Text.Printable

/-!
Text between quotes, as messages show it. Single quotes are used unless the text holds a single
quote and no double one. Backslashes, the quote itself and hidden characters are escaped.
-/

namespace Storyworld.Text

def hexDigit (n : Nat) : Char :=
  if n < 10 then Char.ofNat (48 + n) else Char.ofNat (87 + n)

/-- The last `width` hexadecimal digits. -/
def hexText : Nat → Nat → List Char
  | 0, _ => []
  | width + 1, n => hexText width (n / 16) ++ [hexDigit (n % 16)]

def escapeHidden (c : Char) : List Char :=
  let n := c.toNat
  if n < 256 then '\\' :: 'x' :: hexText 2 n
  else if n < 65536 then '\\' :: 'u' :: hexText 4 n
  else '\\' :: 'U' :: hexText 8 n

def escapeIn (quote c : Char) : List Char :=
  if c == quote || c == '\\' then ['\\', c]
  else if c == '\n' then ['\\', 'n']
  else if c == '\r' then ['\\', 'r']
  else if c == '\t' then ['\\', 't']
  else if isPrintable c then [c]
  else escapeHidden c

def quoteFor (cs : List Char) : Char :=
  if cs.contains '\'' && !cs.contains '"' then '"' else '\''

def quoteChars (cs : List Char) : List Char :=
  let q := quoteFor cs
  q :: cs.flatMap (escapeIn q) ++ [q]

def quoted (s : String) : String :=
  String.ofList (quoteChars s.toList)

theorem length_hexText (width n : Nat) : (hexText width n).length = width := by
  induction width generalizing n with
  | zero => rfl
  | succ w ih => simp [hexText, ih]

end Storyworld.Text
