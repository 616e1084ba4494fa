import Storyworld.Text.Span

/-!
Blank characters and trimming. The wide class takes in the four information separators below the
space, the narrow one is the property White_Space.
-/

namespace Storyworld.Text

def blankSpans : List (Nat × Nat) := [
    (9, 13), (28, 32), (133, 133), (160, 160), (5760, 5760), (8192, 8202), (8232, 8233),
    (8239, 8239), (8287, 8287), (12288, 12288)]

def isBlank (c : Char) : Bool :=
  inSpans blankSpans c

def isWhiteSpace (c : Char) : Bool :=
  isBlank c && !(28 ≤ c.toNat && c.toNat ≤ 31)

/-- The six blanks of plain ASCII text. -/
def isAsciiBlank (c : Char) : Bool :=
  c.toNat == 32 || 9 ≤ c.toNat && c.toNat ≤ 13

def isAscii (cs : List Char) : Bool :=
  cs.all fun c => c.toNat < 128

def trimEnd (p : Char → Bool) (cs : List Char) : List Char :=
  (cs.reverse.dropWhile p).reverse

def trimBy (p : Char → Bool) (cs : List Char) : List Char :=
  trimEnd p (cs.dropWhile p)

/-- Without the blanks at both ends. -/
def trim (cs : List Char) : List Char :=
  trimBy isBlank cs

def trimText (s : String) : String :=
  String.ofList (trim s.toList)

end Storyworld.Text
