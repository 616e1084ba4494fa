import Storyworld.Pattern.Match
import Storyworld.State.Scope

/-!
The rule that answers an action: the first of the situation whose trigger fits. A pattern that
cannot be read fits nothing and leaves a warning.
-/

namespace Storyworld

/-- The pattern of a whole target as one group. -/
def wholePattern (pattern : String) : List Char :=
  '(' :: pattern.toList ++ [')']

/-- Whether a pattern fits, where `written` is the pattern as the scenario has it. -/
def fits (written : String) (pattern : List Char) (test : Pattern.Parsed → Bool) :
    Noting Fault Bool :=
  match Pattern.compile pattern with
  | .ok p => pure (test p)
  | .error (.malformed m) => do
    warn ("Invalid rule pattern " ++ Text.quoted written ++ ": " ++ m.message pattern)
    return false
  | .error (.fault f) => throw f

/-- An absent or empty pattern asks for nothing; any other one asks for a target. -/
def targetFits (pattern : Option String) (target : Option String)
    (test : String → String → Noting Fault Bool) : Noting Fault Bool :=
  match pattern.filter (· ≠ ""), target.filter (· ≠ "") with
  | none, _ => pure true
  | some _, none => pure false
  | some p, some t => test p t

def matchesWhole (pattern target : String) : Noting Fault Bool :=
  fits pattern (wholePattern pattern) fun p => p.matchesAll target.toList

def occursIn (pattern target : String) : Noting Fault Bool :=
  fits pattern pattern.toList fun p => p.occursIn target.toList

def Trigger.fires (t : Trigger) (actionId : String) (target : Option String) (s : State) :
    Noting Fault Bool := do
  if t.actionId ≠ actionId then return false
  if !(← targetFits t.targetPattern target matchesWhole) then return false
  if !(← targetFits t.textPattern target occursIn) then return false
  s.allows t.require

/-- The place of the first rule whose trigger fires, counted from `i`, and the rule. -/
def firstFiring (actionId : String) (target : Option String) (s : State) :
    Nat → List Rule → Noting Fault (Option (Nat × Rule))
  | _, [] => pure none
  | i, r :: rest => do
    if ← r.trigger.fires actionId target s then return some (i, r)
    else firstFiring actionId target s (i + 1) rest

def Situation.ruleFor (situation : Situation) (actionId : String) (target : Option String)
    (s : State) : Noting Fault (Option (Nat × Rule)) :=
  firstFiring actionId target s 0 situation.rules

end Storyworld
