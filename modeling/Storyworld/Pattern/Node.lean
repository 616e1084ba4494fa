/-!
Patterns as trees, and the least and greatest length of what a pattern matches.
-/

namespace Storyworld.Pattern

/-- Switches of a pattern or of a part of it. Without `ascii` and `unicode` the letters are those
of Unicode. -/
structure Flags where
  ignoreCase : Bool := false
  multiline : Bool := false
  dotAll : Bool := false
  verbose : Bool := false
  ascii : Bool := false
  unicode : Bool := false
  template : Bool := false
  deriving Repr, DecidableEq

namespace Flags

def none : Flags := ⟨false, false, false, false, false, false, false⟩

def merge (op : Bool → Bool → Bool) (f g : Flags) : Flags :=
  ⟨op f.ignoreCase g.ignoreCase, op f.multiline g.multiline, op f.dotAll g.dotAll,
    op f.verbose g.verbose, op f.ascii g.ascii, op f.unicode g.unicode, op f.template g.template⟩

def union (f g : Flags) : Flags := merge (· || ·) f g

def without (f g : Flags) : Flags := merge (fun a b => a && !b) f g

def meets (f g : Flags) : Bool := merge (· && ·) f g ≠ none

/-- The choice of letters only. -/
def letters (f : Flags) : Flags := { none with ascii := f.ascii, unicode := f.unicode }

/-- Switches inside a group that turns some on and some off. -/
def within (f on off : Flags) : Flags :=
  let choice : Flags := { none with ascii := true, unicode := true }
  let base := if on.letters = none then f else f.without choice
  (base.union on).without off

end Flags

inductive Category where
  | digit
  | space
  | word
  deriving Repr, DecidableEq

inductive ClassPart where
  | char (n : Nat)
  | span (first last : Nat)
  | category (c : Category) (negated : Bool)
  deriving Repr, DecidableEq

inductive Anchor where
  | lineStart
  | lineEnd
  | textStart
  | textEnd
  | boundary
  | noBoundary
  deriving Repr, DecidableEq

inductive Greed where
  | greedy
  | lazy
  | possessive
  deriving Repr, DecidableEq

inductive Node where
  | empty
  | char (n : Nat) (negated : Bool)
  | any
  | set (negated : Bool) (parts : List ClassPart)
  | anchor (a : Anchor)
  | seq (first second : Node)
  | alt (first second : Node)
  /-- A repetition; without a greatest count it has no end. -/
  | rep (greed : Greed) (least : Nat) (most : Option Nat) (body : Node)
  | group (index : Nat) (body : Node)
  | scoped (on off : Flags) (body : Node)
  | atomic (body : Node)
  | look (ahead negated : Bool) (body : Node)
  /-- The text of a group once more; the group is told by its name or by its number. -/
  | backref (index : Nat) (named : Bool)
  | condition (index : Nat) (named : Bool) (yes no : Node)
  deriving Repr, DecidableEq, Inhabited

def seqOf : List Node → Node
  | [] => .empty
  | [n] => n
  | n :: rest => .seq n (seqOf rest)

def altOf : List Node → Node
  | [] => .empty
  | [n] => n
  | n :: rest => .alt n (altOf rest)

/-- Counts and lengths from here on are the same. -/
def widthLimit : Nat := 0x10000000000000000

structure Width where
  least : Nat
  most : Nat
  deriving Repr, DecidableEq

def Width.limited (w : Width) : Width :=
  ⟨min w.least widthLimit, min w.most widthLimit⟩

/-- The width of a node, where `groups` tells those of the groups. -/
def Node.width (groups : Nat → Width) : Node → Width
  | .empty | .anchor _ | .look .. => ⟨0, 0⟩
  | .char .. | .any | .set .. => ⟨1, 1⟩
  | .seq a b =>
    let v := a.width groups
    let w := b.width groups
    Width.limited ⟨v.least + w.least, v.most + w.most⟩
  | .alt a b | .condition _ _ a b =>
    let v := a.width groups
    let w := b.width groups
    ⟨min v.least w.least, max v.most w.most⟩
  | .rep _ least most body =>
    let w := body.width groups
    let most := match most with
      | some n => w.most * n
      | none => if w.most = 0 then 0 else widthLimit
    Width.limited ⟨w.least * least, most⟩
  | .group _ body | .scoped _ _ body | .atomic body => body.width groups
  | .backref i _ => groups i

end Storyworld.Pattern
