import Storyworld.Text.Blank

/-!
Paths of files. Empty parts and parts of a single point are dropped; two points, for the folder
above, are kept.
-/

namespace Storyworld

structure Path where
  absolute : Bool
  parts : List String
  deriving Repr, DecidableEq

namespace Path

/-- The pieces of a text between the occurrences of a character. -/
def pieces (x : Char) : List Char → List (List Char)
  | [] => [[]]
  | c :: cs =>
    if c = x then [] :: pieces x cs
    else
      match pieces x cs with
      | [] => [[c]]
      | p :: ps => (c :: p) :: ps

def ofText (s : String) : Path :=
  let cs := s.toList
  ⟨cs.head? = some '/',
    ((pieces '/' cs).map String.ofList).filter fun p => p ≠ "" ∧ p ≠ "."⟩

def text (p : Path) : String :=
  let body := String.intercalate "/" p.parts
  if p.absolute then "/" ++ body else if p.parts.isEmpty then "." else body

/-- A path seen from a folder. An absolute path stays as it is. -/
def under (folder p : Path) : Path :=
  if p.absolute then p else { folder with parts := folder.parts ++ p.parts }

def child (folder : Path) (name : String) : Path :=
  { folder with parts := folder.parts ++ [name] }

def parent (p : Path) : Path :=
  { p with parts := p.parts.dropLast }

end Path

end Storyworld
