import Storyworld.Fault
import Storyworld.Text.Quoted

/-!
What is wrong with a pattern, and where.
-/

namespace Storyworld.Pattern

inductive Cause where
  | escapeAtEnd
  | incompleteEscape (text : List Char)
  | badEscape (text : List Char)
  | missing (what : String)
  | undefinedCharacter (name : List Char)
  | octalTooLarge (text : List Char)
  | openGroup
  | groupInLookbehind
  | unknownReference (index : Nat)
  | openSet
  | badRange (first last : List Char)
  | countsReversed
  | nothingToRepeat
  | repeatedTwice
  | endsEarly
  | unknownExtension (text : List Char)
  | unknownGroup (name : List Char)
  | badGroupName (name : List Char)
  | badGroupNumber
  | threeBranches
  | lateFlags
  | bytesFlag
  | letterFlags
  | globalFlagOn
  | globalFlagOff
  | letterFlagOff
  | flagOnAndOff
  | unknownFlag
  | unopenedGroup
  | renamedGroup (name : List Char) (index first : Nat)
  | lookbehindTooWide
  | lookbehindWidth
  | noRepetition (kind : String)
  deriving Repr, DecidableEq

def quotedName (name : List Char) : String :=
  String.ofList (Text.quoteChars name)

def Cause.message : Cause → String
  | escapeAtEnd => "bad escape (end of pattern)"
  | incompleteEscape text => "incomplete escape " ++ String.ofList text
  | badEscape text => "bad escape " ++ String.ofList text
  | missing what => "missing " ++ what
  | undefinedCharacter name => "undefined character name " ++ quotedName name
  | octalTooLarge text =>
    "octal escape value " ++ String.ofList text ++ " outside of range 0-0o377"
  | openGroup => "cannot refer to an open group"
  | groupInLookbehind => "cannot refer to group defined in the same lookbehind subpattern"
  | unknownReference index => "invalid group reference " ++ index.repr
  | openSet => "unterminated character set"
  | badRange first last =>
    "bad character range " ++ String.ofList first ++ "-" ++ String.ofList last
  | countsReversed => "min repeat greater than max repeat"
  | nothingToRepeat => "nothing to repeat"
  | repeatedTwice => "multiple repeat"
  | endsEarly => "unexpected end of pattern"
  | unknownExtension text => "unknown extension ?" ++ String.ofList text
  | unknownGroup name => "unknown group name " ++ quotedName name
  | badGroupName name => "bad character in group name " ++ quotedName name
  | badGroupNumber => "bad group number"
  | threeBranches => "conditional backref with more than two branches"
  | lateFlags => "global flags not at the start of the expression"
  | bytesFlag => "bad inline flags: cannot use 'L' flag with a str pattern"
  | letterFlags => "bad inline flags: flags 'a', 'u' and 'L' are incompatible"
  | globalFlagOn => "bad inline flags: cannot turn on global flag"
  | globalFlagOff => "bad inline flags: cannot turn off global flag"
  | letterFlagOff => "bad inline flags: cannot turn off flags 'a', 'u' and 'L'"
  | flagOnAndOff => "bad inline flags: flag turned on and off"
  | unknownFlag => "unknown flag"
  | unopenedGroup => "unbalanced parenthesis"
  | renamedGroup name index first =>
    "redefinition of group name " ++ quotedName name ++ " as group " ++ index.repr ++
      "; was group " ++ first.repr
  | lookbehindTooWide => "looks too much behind"
  | lookbehindWidth => "look-behind requires fixed-width pattern"
  | noRepetition kind => "internal: unsupported template operator " ++ kind

/-- A cause with its place in the pattern. What concerns the pattern as a whole has none. -/
structure Malformed where
  cause : Cause
  place : Option Nat
  deriving Repr, DecidableEq

/-- The wording for a pattern. Line and column are added if the pattern has several lines. -/
def Malformed.message (m : Malformed) (pattern : List Char) : String :=
  match m.place with
  | none => m.cause.message
  | some place =>
    let text := m.cause.message ++ " at position " ++ place.repr
    if pattern.contains '\n' then
      let before := pattern.take place
      let line := 1 + before.count '\n'
      let column := 1 + (before.reverse.takeWhile (· != '\n')).length
      text ++ " (line " ++ line.repr ++ ", column " ++ column.repr ++ ")"
    else text

inductive Failure where
  | malformed (m : Malformed)
  | fault (f : Fault)
  deriving Repr, DecidableEq

end Storyworld.Pattern
