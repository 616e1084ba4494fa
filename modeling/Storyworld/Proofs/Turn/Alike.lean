import Storyworld.Proofs.Turn.Rules

/-!
Effects that are alike. How the parts of an effect are ordered does not matter as long as its action,
its guard and its cap are the same; then neither does it to a rule, a situation or a turn.
-/

namespace Storyworld

open Noting

/-- Effects that cannot be told apart in play. -/
structure Effect.Alike (e f : Effect) : Prop where
  writtenActions : f.writtenActions = e.writtenActions
  action : f.action? = e.action?
  guard : f.guard? = e.guard?
  cap : f.cap? = e.cap?

def Rule.mapEffects (f : Effect → Effect) (r : Rule) : Rule :=
  { r with effects := r.effects.map f, failure := r.failure.map (List.map f) }

def Situation.mapEffects (f : Effect → Effect) (s : Situation) : Situation :=
  { s with rules := s.rules.map (Rule.mapEffects f) }

def Scenario.mapEffects (f : Effect → Effect) (sc : Scenario) : Scenario :=
  { sc with situations := sc.situations.map fun e => (e.1, e.2.mapEffects f) }

theorem Rule.effectsFor_mapEffects (f : Effect → Effect) (r : Rule) (success : Bool) :
    (r.mapEffects f).effectsFor success = (r.effectsFor success).map f := by
  cases success with
  | true => rfl
  | false => cases failure : r.failure <;> simp [effectsFor, mapEffects, failure]

theorem Scenario.situation?_mapEffects (f : Effect → Effect) (sc : Scenario) (id : String) :
    (sc.mapEffects f).situation? id = (sc.situation? id).map (Situation.mapEffects f) :=
  lookupLast_map (Situation.mapEffects f) id sc.situations

theorem firstFiring_mapEffects (f : Effect → Effect) (actionId : String) (target : Option String)
    (s : State) (i : Nat) (rules : List Rule) :
    firstFiring actionId target s i (rules.map (Rule.mapEffects f)) =
      (Option.map fun p => (p.1, p.2.mapEffects f)) <$> firstFiring actionId target s i rules := by
  induction rules generalizing i with
  | nil => rfl
  | cons r rest ih =>
    simp only [List.map_cons, firstFiring, map_bind, ih]
    refine bind_congr fun fired => ?_
    cases fired <;> simp

namespace State

theorem applyEffect_alike {e f : Effect} (alike : e.Alike f) (narrative : Bool) (s : State) :
    s.applyEffect narrative f = s.applyEffect narrative e := by
  unfold applyEffect
  rw [alike.writtenActions, alike.action, alike.guard, alike.cap]

theorem applyEffects_map {f : Effect → Effect} {es : List Effect}
    (alike : ∀ e ∈ es, e.Alike (f e)) (narrative : Bool) (s : State) :
    s.applyEffects narrative (es.map f) = s.applyEffects narrative es := by
  induction es generalizing s with
  | nil => rfl
  | cons e rest ih =>
    have later := ih fun e mem => alike e (List.mem_cons_of_mem _ mem)
    simp only [List.map_cons, applyEffects, applyEffect_alike (alike e List.mem_cons_self), later]

theorem answer_mapEffects {f : Effect → Effect} {situation : Situation}
    (alike : ∀ r ∈ situation.rules, ∀ success, ∀ e ∈ r.effectsFor success, e.Alike (f e))
    (actionId : String) (target : Option String) (success : Bool) (s : State) :
    s.answer (situation.mapEffects f) actionId target success =
      s.answer situation actionId target success := by
  have rules : (situation.mapEffects f).ruleFor actionId target s =
      (Option.map fun p => (p.1, p.2.mapEffects f)) <$> situation.ruleFor actionId target s :=
    firstFiring_mapEffects f actionId target s 0 situation.rules
  unfold answer
  rw [rules, bind_map_left]
  refine bind_congr_ok (steady_firstFiring ..) fun found fired => ?_
  cases found with
  | none => rfl
  | some p =>
    obtain ⟨i, r⟩ := p
    have each := alike r (firstFiring_mem fired) success
    simp only [Option.map_some, Rule.effectsFor_mapEffects, applyEffects_map each]

/-- A turn is the same if every effect of the scenario is replaced by one that is alike. -/
theorem act_mapEffects {f : Effect → Effect} {sc : Scenario}
    (alike : ∀ e ∈ sc.effects, e.Alike (f e)) (now : Timestamp) (actionId : String)
    (target : Option String) (success : Bool) (s : State) :
    s.act (sc.mapEffects f) now actionId target success = s.act sc now actionId target success := by
  unfold act
  rw [Scenario.situation?_mapEffects]
  cases here : sc.situation? s.situation with
  | none => rfl
  | some situation =>
    have each : ∀ r ∈ situation.rules, ∀ success, ∀ e ∈ r.effectsFor success, e.Alike (f e) :=
      fun r rule success e mem => alike e (Scenario.mem_effects here rule e mem)
    have moves (t : State) : t.resolve (sc.mapEffects f) now = t.resolve sc now :=
      resolve_mapRules (fun _ => List.map (Rule.mapEffects f)) sc now t
    simp only [Option.map_some, answer_mapEffects each, finish, moves]

end State

end Storyworld
