import Storyworld.Pattern.Parser
import Storyworld.Text.Blank
import Storyworld.Text.Case

/-!
Matching a pattern against a text. Each node is tried at a position and hands every way it matches,
in order of preference, to what follows it; the first way on which all succeeds is taken.
-/

namespace Storyworld.Pattern

/-- Where groups were begun and ended, the latest first. -/
structure Marks where
  starts : List (Nat × Nat)
  ends : List (Nat × Nat)

namespace Marks

def nothing : Marks := ⟨[], []⟩

def enter (m : Marks) (index place : Nat) : Marks := { m with starts := (index, place) :: m.starts }

def leave (m : Marks) (index place : Nat) : Marks := { m with ends := (index, place) :: m.ends }

/-- What a group has matched; nothing if it was begun anew since. -/
def span? (m : Marks) (index : Nat) : Option (Nat × Nat) :=
  match m.starts.lookup index, m.ends.lookup index with
  | some a, some b => if a ≤ b then some (a, b) else none
  | _, _ => none

end Marks

def isWordChar (f : Flags) (c : Char) : Bool :=
  if f.ascii then Text.isAsciiWord c else Text.isWord c

def Category.holds (f : Flags) (c : Char) : Category → Bool
  | digit => if f.ascii then c.isDigit else Text.isDigit c
  | space => if f.ascii then Text.isAsciiBlank c else Text.isBlank c
  | word => isWordChar f c

def asciiLower (n : Nat) : Nat :=
  if 65 ≤ n && n ≤ 90 then n + 32 else n

/-- A code point without its case, as the switches of the pattern understand it. -/
def lowered (f : Flags) (n : Nat) : Nat :=
  if !f.ignoreCase then n else if f.ascii then asciiLower n else Text.lowerCode n

def sameChar (f : Flags) (a b : Nat) : Bool :=
  if !f.ignoreCase then a == b
  else if f.ascii then asciiLower a == asciiLower b
  else Text.sameLetter a b

/-- The code points that count as one with a character. -/
def likeChar (f : Flags) (n : Nat) : List Nat :=
  if !f.ignoreCase then [n]
  else if f.ascii then
    let l := asciiLower n
    if 97 ≤ l && l ≤ 122 then [l, l - 32] else [l]
  else Text.letterClass n

/-- Beyond the basic plane a set compares with the small letter, and a span also with the capital
of that. -/
def ClassPart.holds (f : Flags) (c : Char) : ClassPart → Bool
  | char n => if n < 0x10000 then sameChar f n c.toNat else lowered f c.toNat == n
  | span first last =>
    let l := lowered f c.toNat
    (likeChar f c.toNat).any (fun n => first ≤ n && n ≤ min last 0xFFFF) ||
      0xFFFF < last && (first ≤ l && l ≤ last ||
        f.ignoreCase && first ≤ Text.upperCode l && Text.upperCode l ≤ last)
  | category k negated => k.holds f c != negated

def Anchor.holds (f : Flags) (text : Array Char) (place : Nat) : Anchor → Bool
  | lineStart => place == 0 || f.multiline && text[place - 1]? == some '\n'
  | lineEnd =>
    place == text.size || text[place]? == some '\n' && (f.multiline || place + 1 == text.size)
  | textStart => place == 0
  | textEnd => place == text.size
  | boundary => text.size != 0 && wordBefore f text place != wordAfter f text place
  | noBoundary => text.size != 0 && wordBefore f text place == wordAfter f text place
where
  wordAfter (f : Flags) (text : Array Char) (place : Nat) : Bool :=
    match text[place]? with
    | some c => isWordChar f c
    | none => false
  wordBefore (f : Flags) (text : Array Char) (place : Nat) : Bool :=
    place != 0 && wordAfter f text (place - 1)

abbrev Found := Option (Nat × Marks)

/-- What follows a node. -/
abbrev Rest := Nat → Marks → Found

/-- A node at work: where it starts, with which marks, and what follows. -/
abbrev Matcher := Nat → Marks → Rest → Found

def orElse (a : Found) (b : Unit → Found) : Found :=
  match a with
  | some r => some r
  | none => b ()

def oneChar (text : Array Char) (holds : Char → Bool) : Matcher := fun place marks k =>
  match text[place]? with
  | some c => if holds c then k (place + 1) marks else none
  | none => none

def below (most : Option Nat) (count : Nat) : Bool :=
  match most with
  | some n => count < n
  | none => true

/-- As often as possible first. A round that starts where the last one started is not begun. -/
def repeatGreedy (body : Matcher) (least : Nat) (most : Option Nat) (k : Rest) :
    Nat → Nat → Option Nat → Nat → Marks → Found
  | 0, _, _, _, _ => none
  | fuel + 1, count, last, place, marks =>
    if count < least then
      body place marks (repeatGreedy body least most k fuel (count + 1) last)
    else if below most count && last ≠ some place then
      orElse (body place marks (repeatGreedy body least most k fuel (count + 1) (some place)))
        fun _ => k place marks
    else k place marks

/-- As seldom as possible first. -/
def repeatLazy (body : Matcher) (least : Nat) (most : Option Nat) (k : Rest) :
    Nat → Nat → Option Nat → Nat → Marks → Found
  | 0, _, _, _, _ => none
  | fuel + 1, count, last, place, marks =>
    if count < least then
      body place marks (repeatLazy body least most k fuel (count + 1) last)
    else
      orElse (k place marks) fun _ =>
        if below most count && last ≠ some place then
          body place marks (repeatLazy body least most k fuel (count + 1) (some place))
        else none

/-- As often as possible, where each round matches in its first way only. -/
def repeatPossessive (body : Matcher) (least : Nat) (most : Option Nat) :
    Nat → Nat → Nat → Marks → Found
  | 0, _, place, marks => some (place, marks)
  | fuel + 1, count, place, marks =>
    if below most count || count < least then
      match body place marks (fun p m => some (p, m)) with
      | some (p, m) =>
        if count < least || p ≠ place then
          repeatPossessive body least most fuel (count + 1) p m
        else some (p, m)
      | none => if count < least then none else some (place, marks)
    else some (place, marks)

def repeatNode (greed : Greed) (least : Nat) (most : Option Nat) (body : Matcher) (size : Nat) :
    Matcher := fun place marks k =>
  let fuel := least + (size - place) + 2
  match greed with
  | .greedy => repeatGreedy body least most k fuel 0 none place marks
  | .lazy => repeatLazy body least most k fuel 0 none place marks
  | .possessive =>
    match repeatPossessive body least most fuel 0 place marks with
    | some (p, m) => k p m
    | none => none

/-- The text of a group once more. -/
def matchAgain (f : Flags) (text : Array Char) (index : Nat) : Matcher := fun place marks k =>
  match marks.span? index with
  | some (a, b) =>
    let same := (List.range (b - a)).all fun i =>
      match text[a + i]?, text[place + i]? with
      | some c, some d => lowered f c.toNat == lowered f d.toNat
      | _, _ => false
    if same then k (place + (b - a)) marks else none
  | none => none

/-- A look ahead or behind: where it starts, and what it asks there. -/
def lookAt (body : Matcher) (start : Option Nat) (negated : Bool) : Matcher :=
  fun place marks k =>
    match start.bind fun s => body s marks (fun p m => some (p, m)) with
    | some (_, m) => if negated then none else k place m
    | none => if negated then k place marks else none

/-- Where a look behind of some width starts, if there is enough text. -/
def stepBack (place width : Nat) : Option Nat :=
  if width ≤ place then some (place - width) else none

/-- A node as a matcher, under the switches that hold where it stands. -/
def Node.run (text : Array Char) (groups : Nat → Width) : Flags → Node → Matcher
  | _, .empty => fun place marks k => k place marks
  | f, .char n negated => oneChar text fun c => sameChar f n c.toNat != negated
  | f, .any => oneChar text fun c => f.dotAll || c != '\n'
  | f, .set negated parts => oneChar text fun c => parts.any (ClassPart.holds f c) != negated
  | f, .anchor a => fun place marks k => if a.holds f text place then k place marks else none
  | f, .seq a b => fun place marks k =>
    a.run text groups f place marks fun p m => b.run text groups f p m k
  | f, .alt a b => fun place marks k =>
    orElse (a.run text groups f place marks k) fun _ => b.run text groups f place marks k
  | f, .rep greed least most body => repeatNode greed least most (body.run text groups f) text.size
  | f, .group index body => fun place marks k =>
    body.run text groups f place (marks.enter index place) fun p m => k p (m.leave index p)
  | f, .scoped on off body => body.run text groups (f.within on off)
  | f, .atomic body => fun place marks k =>
    match body.run text groups f place marks (fun p m => some (p, m)) with
    | some (p, m) => k p m
    | none => none
  | f, .look ahead negated body => fun place marks k =>
    let start := if ahead then some place else stepBack place (body.width groups).least
    lookAt (body.run text groups f) start negated place marks k
  | f, .backref index _ => matchAgain f text index
  | f, .condition index _ yes no => fun place marks k =>
    if (marks.span? index).isSome then yes.run text groups f place marks k
    else no.run text groups f place marks k

/-- The pattern at a position, case ignored. -/
def Parsed.runAt (p : Parsed) (text : Array Char) (place : Nat) (k : Rest) : Found :=
  p.node.run text (widthOf p.widths) (p.flags.union { Flags.none with ignoreCase := true })
    place .nothing k

/-- Whether the whole text matches, case ignored. -/
def Parsed.matchesAll (p : Parsed) (text : List Char) : Bool :=
  let text := text.toArray
  (p.runAt text 0 fun place marks =>
    if place = text.size then some (place, marks) else none).isSome

/-- Whether the pattern occurs in the text, case ignored. -/
def Parsed.occursIn (p : Parsed) (text : List Char) : Bool :=
  let text := text.toArray
  (List.range (text.size + 1)).any fun place =>
    (p.runAt text place fun place marks => some (place, marks)).isSome

end Storyworld.Pattern
