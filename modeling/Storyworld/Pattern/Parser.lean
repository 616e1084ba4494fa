import Storyworld.Pattern.Escape
import Storyworld.Text.Identifier
import Storyworld.Text.Letter

/-!
Patterns read from text.
-/

namespace Storyworld.Pattern

def countLimit : Nat := 0xFFFFFFFF

def groupLimit : Nat := 0x7FFFFFFF

/-- An element of a sequence. A bundle is a group that has neither a number nor switches. -/
inductive Element where
  | node (n : Node)
  | bundle (ns : List Node)

def Element.nodes : Element → List Node
  | node n => [n]
  | bundle ns => ns

/-- The elements in order, from a list that has the last one first. -/
def nodesOf (elements : List Element) : List Node :=
  elements.reverse.flatMap Element.nodes

def flagOf? (c : Char) : Option Flags :=
  match c with
  | 'i' => some { Flags.none with ignoreCase := true }
  | 'L' => some Flags.none
  | 'm' => some { Flags.none with multiline := true }
  | 's' => some { Flags.none with dotAll := true }
  | 'x' => some { Flags.none with verbose := true }
  | 'a' => some { Flags.none with ascii := true }
  | 't' => some { Flags.none with template := true }
  | 'u' => some { Flags.none with unicode := true }
  | _ => none

def pieceFlag? : Piece → Option (Char × Flags)
  | .plain c => (flagOf? c).map fun f => (c, f)
  | .escaped _ => none

def isLetterPiece : Piece → Bool
  | .plain c => Text.isLetter c
  | .escaped _ => false

def failFlag {α : Type} (what : String) (p : Piece) : Parse α :=
  failBefore (if isLetterPiece p then .unknownFlag else .missing what) p.length

/-- Switches to turn on, from the given one on, and the piece that ends them. -/
def flagsOn (on : Flags) (c : Char) (f : Flags) : Nat → Parse (Flags × Piece)
  | 0 => return (on, .plain c)
  | n + 1 => do
    if c = 'L' then failBefore .bytesFlag 0
    let on := on.union f
    if f.letters ≠ Flags.none ∧ on.letters ≠ f.letters then failBefore .letterFlags 0
    match ← take? with
    | none => failBefore (.missing "-, : or )") 0
    | some p =>
      if p.isAmong [')', '-', ':'] then return (on, p)
      match pieceFlag? p with
      | some (c, f) => flagsOn on c f n
      | none => failFlag "-, : or )" p

/-- Switches to turn off, from the given one on, up to the colon. -/
def flagsOff (off : Flags) (c : Char) (f : Flags) : Nat → Parse Flags
  | 0 => return off
  | n + 1 => do
    if c = 'L' ∨ f.letters ≠ Flags.none then failBefore .letterFlagOff 0
    let off := off.union f
    match ← take? with
    | none => failBefore (.missing ":") 0
    | some p =>
      if p = .plain ':' then return off
      match pieceFlag? p with
      | some (c, f) => flagsOff off c f n
      | none => failFlag ":" p

/-- Switches to turn on, with the piece that ends them; none are there if they begin with a dash. -/
def readOn (first : Piece) : Parse (Flags × Piece) := do
  match pieceFlag? first with
  | some (c, f) => flagsOn Flags.none c f ((← get).rest.length + 2)
  | none => return (Flags.none, first)

/-- Switches to turn off, if those to turn on end with a dash. -/
def readOff (stop : Piece) : Parse Flags := do
  if stop = .plain '-' then
    match ← take? with
    | none => failBefore (.missing "flag") 0
    | some p =>
      match pieceFlag? p with
      | some (c, f) => flagsOff Flags.none c f ((← get).rest.length + 2)
      | none => failFlag "flag" p
  else return Flags.none

/-- Switches of a group, or none where they are meant for the whole pattern. -/
def readFlags (first : Piece) : Parse (Option (Flags × Flags)) := do
  let (on, stop) ← readOn first
  if stop = .plain ')' then
    modify fun p => { p with flags := p.flags.union on }
    return none
  else
    if on.template then failBefore .globalFlagOn 1
    let off ← readOff stop
    if off.template then failBefore .globalFlagOff 1
    if on.meets off then failBefore .flagOnAndOff 1
    return some (on, off)

def memberOf (p : Piece) : Parse ClassPart :=
  match p with
  | .plain c => return .char c.toNat
  | .escaped c => classEscape c

/-- The rest of a set that starts at `start`; `parts` has been read, the last first. -/
def readMembers (start : Nat) (parts : List ClassPart) : Nat → Parse (List ClassPart)
  | 0 => failAt .openSet start
  | n + 1 => do
    let some this ← take? | failAt .openSet start
    if this = .plain ']' ∧ parts ≠ [] then return parts
    let first ← memberOf this
    if !(← accept '-') then readMembers start (first :: parts) n
    else
      let some that ← take? | failAt .openSet start
      if that = .plain ']' then return .char 45 :: first :: parts
      let last ← memberOf that
      let bad := failBefore (.badRange this.text that.text) (this.length + 1 + that.length)
      match first, last with
      | .char lo, .char hi =>
        if hi < lo then bad else readMembers start (.span lo hi :: parts) n
      | _, _ => bad

/-- A set, after its opening bracket. -/
def readSet : Parse Node := do
  let start := (← here) - 1
  let negated ← accept '^'
  let parts ← readMembers start [] ((← get).rest.length + 2)
  match parts.reverse.eraseDups with
  | [.char n] => return .char n negated
  | parts => return .set negated parts

def countValue (ds : List Char) : Nat :=
  Decimal.valueOf (ds.filterMap Text.digitValue?)

/-- What is wrong with the digits of a count, if anything is. -/
def countFault? (ds : List Char) : Option Fault :=
  if Decimal.digitLimit < ds.length then some .tooManyDigits
  else if countLimit ≤ countValue ds then some .repetitionTooLarge
  else none

def countOf (ds : List Char) : Parse Nat :=
  match countFault? ds with
  | some f => throw (.fault f)
  | none => return countValue ds

/-- The digits of the greatest count, which are those of the least one if there is no comma. -/
def readMost (lo : List Char) : Parse (List Char) := do
  if ← accept ',' then takeAll digitChars else return lo

/-- The counts that digits stand for. Without digits the least one is zero and the greatest one is
not there. -/
def countsOf (lo hi : List Char) (place : Nat) : Parse (Nat × Option Nat) := do
  let least ← countOf lo
  if hi.isEmpty then return (least, none)
  else
    let most ← countOf hi
    if most < least then failAt .countsReversed place
    return (least, some most)

/-- The counts in braces, after the opening one; none if the braces stand for themselves. -/
def readCounts : Parse (Option (Nat × Option Nat)) := do
  let saved ← get
  if saved.next = some (.plain '\x7d') then return none
  else
    let lo ← takeAll digitChars
    let hi ← readMost lo
    if ← accept '\x7d' then return some (← countsOf lo hi saved.place)
    else
      restore saved
      return none

/-- The counts that a character asks for, if it is one for repetition. -/
def repetition? (c : Char) : Parse (Option (Nat × Option Nat)) :=
  match c with
  | '?' => return some (0, some 1)
  | '*' => return some (0, none)
  | '+' => return some (1, none)
  | '\x7b' => readCounts
  | _ => return none

/-- The mark behind a repetition that says how eager it is. -/
def readGreed : Parse Greed := do
  if ← accept '?' then return .lazy
  if ← accept '+' then return .possessive
  return .greedy

/-- The last element repeated; `place` is that of the character for the repetition. -/
def repeatLast (place : Nat) (counts : Nat × Option Nat) : List Element → Parse (List Element)
  | [] => failAt .nothingToRepeat place
  | .node (.anchor _) :: _ => failAt .nothingToRepeat place
  | .node (.rep ..) :: _ => failAt .repeatedTwice place
  | e :: rest => do
    let greed ← readGreed
    return .node (.rep greed counts.1 counts.2 (seqOf e.nodes)) :: rest

/-- What a branch of one character adds to a set. -/
def singleParts? : List Node → Option (List ClassPart)
  | [.char n false] => some [.char n]
  | [.set false parts] => some parts
  | _ => none

/-- Branches of one character each are a set. -/
def joinSeveral (branches : List (List Node)) : Node :=
  match branches.mapM singleParts? with
  | some parts => .set false parts.flatten.eraseDups
  | none => altOf (branches.map seqOf)

def joinBranches : List (List Node) → List Node
  | [ns] => ns
  | branches => [joinSeveral branches]

def checkName (name : List Char) : Parse Unit :=
  if Text.isIdentifier name then return
  else failBefore (.badGroupName name) (name.length + 1)

def groupNamed (name : List Char) : Parse Nat := do
  match (← get).names.find? fun e => e.1 = name with
  | some e => return e.2
  | none => failBefore (.unknownGroup name) (name.length + 1)

/-- The group of a number. That it exists is asked for the end of the pattern. -/
def groupNumbered (name : List Char) : Parse Nat := do
  match Decimal.readWhole? name with
  | some (.ofNat index) =>
    if index = 0 then failBefore .badGroupNumber (name.length + 1)
    if groupLimit ≤ index then failBefore (.unknownReference index) (name.length + 1)
    let place := (← here) - name.length - 1
    modify fun p =>
      if p.asked.any fun a => a.1 = index then p
      else { p with asked := p.asked ++ [(index, place)] }
    return index
  | _ => failBefore (.badGroupName name) (name.length + 1)

/-- The group that a condition asks for, and whether it does so by name. -/
def readCondition : Parse (Nat × Bool) := do
  let name ← takeName ')' "group name"
  let named := Text.isIdentifier name
  let index ← if named then groupNamed name else groupNumbered name
  checkBehind index
  return (index, named)

/-- A group once more, by its name. -/
def namedReference : Parse Node := do
  let name ← takeName ')' "group name"
  checkName name
  let index ← groupNamed name
  if !(← isClosed index) then failBefore .openGroup (name.length + 1)
  checkBehind index
  return .backref index true

/-- Begins a look; tells whether it is the outermost one behind. -/
def beginLook (ahead : Bool) : Parse Bool := do
  if !ahead && (← get).behind.isNone then
    modify fun p => { p with behind := some (p.widths.length + 1) }
    return true
  else return false

def endLook (outermost : Bool) : Parse Unit :=
  modify fun p => if outermost then { p with behind := none } else p

/-- Skips a comment up to a character, which is skipped too; tells whether it was there. -/
def skipTo (stop : Char) : Nat → Parse Bool
  | 0 => return false
  | n + 1 => do
    match ← take? with
    | none => return false
    | some p => if p = .plain stop then return true else skipTo stop n

def skipComment (stop : Char) : Parse Bool := do
  skipTo stop ((← get).rest.length + 2)

def closeParen (start : Nat) : Parse Unit := do
  if !(← accept ')') then failAt (.missing "), unterminated subpattern") start

/-- What a group gives: an element, nothing, or switches for the whole pattern. -/
inductive GroupResult where
  | element (e : Element)
  | nothing
  | flags

/-- The other branch of a condition, if there is one. -/
def readOtherwise (branch : Parse (List Node)) : Parse (List Node) := do
  if ← accept '|' then
    let no ← branch
    if (← next?) = some (.plain '|') then failBefore .threeBranches 0
    else return no
  else return []

def verboseBlanks : List Char := [' ', '\t', '\n', '\r', '\x0b', '\x0c']

mutual

/-- Alternatives up to a closing parenthesis or the end. -/
def readBranches (verbose top first : Bool) : Nat → Parse (List (List Node))
  | 0 => failBefore .endsEarly 0
  | n + 1 => do
    let ns ← readSequence verbose (top && first) [] n
    if !(← accept '|') then return [ns]
    let p ← get
    let verbose := if top then p.flags.verbose else verbose
    return ns :: (← readBranches verbose top false n)
termination_by structural n => n

/-- A sequence after the elements that are read, the last of which comes first. -/
def readSequence (verbose first : Bool) (elements : List Element) : Nat → Parse (List Node)
  | 0 => failBefore .endsEarly 0
  | n + 1 => do
    let some this ← next? | return nodesOf elements
    if this.isAmong ['|', ')'] then return nodesOf elements
    advance
    let place := (← here) - 1
    let add (node : Node) := readSequence verbose first (.node node :: elements) n
    if verbose && this.isAmong verboseBlanks then readSequence verbose first elements n
    else if verbose && this = .plain '#' then
      let _ ← skipComment '\n'
      readSequence verbose first elements n
    else
      match this with
      | .escaped c => add (← escape c)
      | .plain '[' => add (← readSet)
      | .plain '.' => add .any
      | .plain '^' => add (.anchor .lineStart)
      | .plain '$' => add (.anchor .lineEnd)
      | .plain '(' =>
        match ← readGroup verbose place n with
        | .element e => readSequence verbose first (e :: elements) n
        | .nothing => readSequence verbose first elements n
        | .flags =>
          if !first || !elements.isEmpty then failAt .lateFlags place
          else readSequence (← get).flags.verbose first elements n
      | .plain c =>
        match ← repetition? c with
        | some counts => readSequence verbose first (← repeatLast place counts elements) n
        | none => add (.char c.toNat false)
termination_by structural n => n

/-- The alternatives of a group and its end. -/
def readBody (verbose : Bool) (start : Nat) : Nat → Parse (List Node)
  | 0 => failBefore .endsEarly 0
  | n + 1 => do
    let branches ← readBranches verbose false false n
    closeParen start
    return joinBranches branches
termination_by structural n => n

/-- A group with a number, and with a name if it has one. -/
def readNumbered (verbose : Bool) (start : Nat) (name : Option (List Char)) :
    Nat → Parse GroupResult
  | 0 => failBefore .endsEarly 0
  | n + 1 => do
    let index ← openGroup name
    let body := seqOf (← readBody verbose start n)
    closeGroup index body
    return .element (.node (.group index body))
termination_by structural n => n

/-- A group, after its opening parenthesis at `start`. -/
def readGroup (verbose : Bool) (start : Nat) : Nat → Parse GroupResult
  | 0 => failBefore .endsEarly 0
  | n + 1 => do
    if !(← accept '?') then readNumbered verbose start none n
    else
      let some p ← take? | failBefore .endsEarly 0
      match p with
      | .plain 'P' =>
        if ← accept '<' then
          let name ← takeName '>' "group name"
          checkName name
          readNumbered verbose start (some name) n
        else if ← accept '=' then return .element (.node (← namedReference))
        else
          let some q ← take? | failBefore .endsEarly 0
          failBefore (.unknownExtension ('P' :: q.text)) (q.length + 2)
      | .plain ':' => return .element (.bundle (← readBody verbose start n))
      | .plain '#' =>
        if ← skipComment ')' then return .nothing
        else failAt (.missing "), unterminated comment") start
      | .plain '=' => readLook verbose start true false n
      | .plain '!' => readLook verbose start true true n
      | .plain '<' =>
        let some q ← take? | failBefore .endsEarly 0
        if !q.isAmong ['=', '!'] then
          failBefore (.unknownExtension ('<' :: q.text)) (q.length + 2)
        else readLook verbose start false (q = .plain '!') n
      | .plain '(' =>
        let (index, named) ← readCondition
        let yes ← readSequence verbose false [] n
        let no ← readOtherwise (readSequence verbose false [] n)
        closeParen start
        return .element (.node (.condition index named (seqOf yes) (seqOf no)))
      | .plain '>' => return .element (.node (.atomic (seqOf (← readBody verbose start n))))
      | p =>
        if (pieceFlag? p).isNone && p ≠ .plain '-' then
          failBefore (.unknownExtension p.text) (p.length + 1)
        else
          match ← readFlags p with
          | none => return .flags
          | some (on, off) =>
            let verbose := (verbose || on.verbose) && !off.verbose
            return .element (.node (.scoped on off (seqOf (← readBody verbose start n))))
termination_by structural n => n

/-- A look ahead or behind, after its mark. -/
def readLook (verbose : Bool) (start : Nat) (ahead negated : Bool) : Nat → Parse GroupResult
  | 0 => failBefore .endsEarly 0
  | n + 1 => do
    let outermost ← beginLook ahead
    let branches ← readBranches verbose false false n
    endLook outermost
    closeParen start
    return .element (.node (.look ahead negated (seqOf (joinBranches branches))))
termination_by structural n => n

end

/-- The whole pattern. -/
def readPattern : Parse Node := do
  advance
  let branches ← readBranches false true true (4 * (← get).total + 8)
  let p ← get
  if p.flags.ascii && p.flags.unicode then throw (.fault .lettersContradict)
  else if p.next.isSome then failBefore .unopenedGroup 0
  else
    match p.asked.find? fun a => p.widths.length < a.1 with
    | some (index, place) => failAt (.unknownReference index) place
    | none => return seqOf (joinBranches branches)

structure Parsed where
  node : Node
  flags : Flags
  widths : List (Option Width)

def parse (pattern : List Char) : Except Failure Parsed := do
  let start : Progress := ⟨pattern.length, none, pattern, Flags.none, [], [], none, []⟩
  let (node, p) ← readPattern.run start
  return ⟨node, p.flags, p.widths⟩

def greedName : Greed → String
  | .greedy => "MAX_REPEAT"
  | .lazy => "MIN_REPEAT"
  | .possessive => "POSSESSIVE_REPEAT"

/-- What a pattern may not hold although it can be read: repetitions in templates, and a look
behind of no fixed width. -/
def Node.defect? (template : Bool) (groups : Nat → Width) : Node → Option Cause
  | .rep greed _ _ body =>
    if template then some (.noRepetition (greedName greed)) else body.defect? template groups
  | .look ahead _ body =>
    let w := body.width groups
    if !ahead && countLimit < w.least then some .lookbehindTooWide
    else if !ahead && w.least ≠ w.most then some .lookbehindWidth
    else body.defect? template groups
  | .seq a b | .alt a b | .condition _ _ a b =>
    match a.defect? template groups with
    | some c => some c
    | none => b.defect? template groups
  | .group _ body | .scoped _ _ body | .atomic body => body.defect? template groups
  | _ => none

/-- A pattern that can be matched. -/
def compile (pattern : List Char) : Except Failure Parsed := do
  let p ← parse pattern
  match p.node.defect? p.flags.template (widthOf p.widths) with
  | some c => throw (.malformed ⟨c, none⟩)
  | none => return p

end Storyworld.Pattern
