import Storyworld.Proofs.Results
import Storyworld.State.Turn

/-!
Every stage of a turn is steady: conditions, effects, matching, moves and the turn itself give the
same result whatever notices came before.
-/

namespace Storyworld

open Noting

namespace State

@[simp] theorem steady_holds (c : String) (s : State) : Steady (s.holds c) := by
  unfold holds
  split
  · exact steady_pure _
  · split
    · exact (steady_warn _).bind fun _ => steady_pure _
    · exact steady_throw _

@[simp] theorem steady_allows (c : Option String) (s : State) : Steady (s.allows c) := by
  unfold allows
  split
  · exact steady_pure _
  · split
    · exact steady_pure _
    · exact steady_holds _ s

theorem steady_doAdd (s : State) (raw : String) (cap : Option Number) :
    Steady (s.doAdd raw cap) := by
  unfold doAdd
  split
  · exact (steady_warn _).bind fun _ => steady_pure _
  · dsimp only
    split
    · exact steady_ofExcept _
    · split
      · exact steady_ofExcept _
      · exact (steady_warn _).bind fun _ => steady_pure _

theorem steady_setCounterTo (s : State) (key : String) (raw : List Char) (cap : Option Number) :
    Steady (s.setCounterTo key raw cap) := by
  unfold setCounterTo
  split
  · exact steady_pure _
  · split
    · exact steady_pure _
    · exact (steady_warn _).bind fun _ => steady_pure _

theorem steady_doSet (s : State) (raw : String) (cap : Option Number) :
    Steady (s.doSet raw cap) := by
  unfold doSet
  split
  · exact (steady_warn _).bind fun _ => steady_pure _
  · split
    · exact steady_pure _
    · split
      · exact steady_pure _
      · dsimp only
        split
        · exact steady_setCounterTo ..
        · exact (steady_warn _).bind fun _ => steady_pure _

theorem steady_doTrack (s : State) (raw : String) (cap : Option Number) :
    Steady (s.doTrack raw cap) := by
  unfold doTrack
  split
  · exact (steady_warn _).bind fun _ => steady_pure _
  · exact steady_ofExcept _

@[simp] theorem steady_doAction (s : State) (a : Action) (cap : Option Number) :
    Steady (s.doAction a cap) := by
  cases a with
  | add raw => exact steady_doAdd s raw cap
  | set raw => exact steady_doSet s raw cap
  | track raw => exact steady_doTrack s raw cap
  | _ => exact steady_pure _

@[simp] theorem steady_applyEffect (narrative : Bool) (e : Effect) (s : State) :
    Steady (s.applyEffect narrative e) := by
  unfold applyEffect
  refine (steady_allows _ s).bind fun runs => ?_
  split
  · exact steady_pure _
  · split
    · exact (steady_warn _).bind fun _ => steady_pure _
    · exact (steady_doAction ..).bind fun _ => steady_pure _

@[simp] theorem steady_applyEffects (narrative : Bool) (es : List Effect) (s : State) :
    Steady (s.applyEffects narrative es) := by
  induction es generalizing s with
  | nil => exact steady_pure _
  | cons e rest ih =>
    exact (steady_applyEffect narrative e s).bind fun p =>
      (ih p.1).bind fun _ => steady_pure _

end State

theorem steady_fits (written : String) (pattern : List Char) (test : Pattern.Parsed → Bool) :
    Steady (fits written pattern test) := by
  unfold fits
  split
  · exact steady_pure _
  · exact (steady_warn _).bind fun _ => steady_pure _
  · exact steady_throw _

theorem steady_targetFits (pattern target : Option String)
    {test : String → String → Noting Fault Bool} (ht : ∀ p t, Steady (test p t)) :
    Steady (targetFits pattern target test) := by
  unfold targetFits
  split
  · exact steady_pure _
  · exact steady_pure _
  · exact ht _ _

theorem steady_fires (t : Trigger) (actionId : String) (target : Option String) (s : State) :
    Steady (t.fires actionId target s) := by
  unfold Trigger.fires
  split
  · exact steady_pure _
  · refine (steady_targetFits _ _ fun _ _ => steady_fits ..).bind fun whole => ?_
    split
    · exact steady_pure _
    · refine (steady_targetFits _ _ fun _ _ => steady_fits ..).bind fun part => ?_
      split
      · exact steady_pure _
      · exact State.steady_allows _ s

theorem steady_firstFiring (actionId : String) (target : Option String) (s : State) (i : Nat)
    (rules : List Rule) : Steady (firstFiring actionId target s i rules) := by
  induction rules generalizing i with
  | nil => exact steady_pure _
  | cons r rest ih =>
    refine (steady_fires ..).bind fun fired => ?_
    split
    · exact steady_pure _
    · exact ih (i + 1)

theorem result_firstFiring_cons (actionId : String) (target : Option String) (s : State) (i : Nat)
    (r : Rule) (rest : List Rule) :
    (firstFiring actionId target s i (r :: rest)).result =
      (r.trigger.fires actionId target s).result >>= fun fired =>
        if fired then .ok (some (i, r))
        else (firstFiring actionId target s (i + 1) rest).result := by
  rw [firstFiring, result_bind]
  · congr 1
    funext fired
    cases fired with
    | true => rfl
    | false => rfl
  · intro fired
    split
    · exact steady_pure _
    · exact steady_firstFiring ..

theorem steady_firstEntered (situations : List (String × Situation)) (s : State) :
    Steady (firstEntered situations s) := by
  induction situations with
  | nil => exact steady_pure _
  | cons e rest ih =>
    unfold firstEntered
    dsimp only
    split
    · exact ih
    · split
      · exact ih
      · refine (State.steady_holds _ s).bind fun enters => ?_
        split
        · exact steady_pure _
        · exact ih

namespace State

@[simp] theorem steady_resolve (sc : Scenario) (now : Timestamp) (s : State) :
    Steady (s.resolve sc now) := by
  refine (steady_firstEntered _ s).bind fun entered => ?_
  split
  · exact steady_pure _
  · split <;> exact steady_pure _

@[simp] theorem steady_finish (sc : Scenario) (now : Timestamp) (rule : Option Nat)
    (r : State × List String) : Steady (finish sc now rule r) :=
  (steady_resolve sc now r.1).bind fun _ => steady_pure _

@[simp] theorem steady_answer (situation : Situation) (actionId : String)
    (target : Option String) (success : Bool) (s : State) :
    Steady (s.answer situation actionId target success) := by
  refine (steady_firstFiring ..).bind fun found => ?_
  split
  · exact steady_pure _
  · exact (steady_applyEffects ..).bind fun _ => steady_pure _

@[simp] theorem steady_act (sc : Scenario) (now : Timestamp) (actionId : String)
    (target : Option String) (success : Bool) (s : State) :
    Steady (s.act sc now actionId target success) := by
  unfold act
  split
  · exact (steady_warn _).bind fun _ => steady_pure _
  · exact (steady_answer ..).bind fun _ => steady_finish ..

@[simp] theorem steady_applyLists (lists : List (List Value)) (s : State) :
    Steady (s.applyLists lists) := by
  induction lists generalizing s with
  | nil => exact steady_pure _
  | cons vs rest ih =>
    exact (steady_ofExcept _).bind fun es =>
      (steady_applyEffects false es s).adapt.bind fun p =>
        (ih p.1).bind fun _ => steady_pure _

@[simp] theorem steady_applyConsequences (sc : Scenario) (now : Timestamp)
    (lists : List (List Value)) (s : State) :
    Steady (s.applyConsequences sc now lists) :=
  (steady_applyLists lists s).bind fun r => (steady_finish sc now none r).adapt

end State

end Storyworld
