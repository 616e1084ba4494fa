import Storyworld.Proofs.Schema.Fits
import Storyworld.Proofs.Session.Run
import Storyworld.Proofs.Turn.Alterations

/-!
Turns as the rules alone have them, and courses of such turns. A turn works on the state by effects
only, and then it moves to another situation or it does not. What every effect and every move keeps,
a course of turns keeps.
-/

namespace Storyworld

open Noting

theorem firstFiring_mem {actionId : String} {target : Option String} {s : State} {i j : Nat}
    {r : Rule} {rules : List Rule}
    (h : (firstFiring actionId target s i rules).result = .ok (some (j, r))) : r ∈ rules := by
  induction rules generalizing i with
  | nil => cases h
  | cons first rest ih =>
    rw [result_firstFiring_cons] at h
    obtain ⟨fired, -, h⟩ := bind_eq_ok.1 h
    split at h
    · cases h
      exact List.mem_cons_self
    · exact List.mem_cons_of_mem _ (ih h)

theorem firstEntered_mem {situations : List (String × Situation)} {s : State} {id : String}
    (h : (firstEntered situations s).result = .ok (some id)) : id ∈ situations.map Prod.fst := by
  induction situations with
  | nil => cases h
  | cons e rest ih =>
    obtain ⟨first, situation⟩ := e
    have steady (enters : Bool) : Steady (if enters then pure (some first)
        else firstEntered rest s : Noting Fault (Option String)) := by
      split
      · exact steady_pure _
      · exact steady_firstEntered ..
    have entered : ∃ enters : Bool, (if enters then pure (some first)
        else firstEntered rest s : Noting Fault (Option String)).result = .ok (some id) := by
      unfold firstEntered at h
      split at h
      · exact ⟨false, h⟩
      · split at h
        · exact ⟨false, h⟩
        · rw [result_bind _ _ steady] at h
          obtain ⟨enters, -, h⟩ := bind_eq_ok.1 h
          exact ⟨enters, h⟩
    obtain ⟨enters, h⟩ := entered
    split at h
    · cases h
      exact List.mem_cons_self
    · exact List.mem_cons_of_mem _ (ih h)

namespace State

/-- The record of an ending changes the player only. -/
theorem recordEnding_eq (sc : Scenario) (now : Timestamp) (s : State) :
    ∃ p : Player, s.recordEnding sc now = { s with player := p } := by
  unfold recordEnding
  split
  · split
    · exact ⟨_, rfl⟩
    · exact ⟨s.player, rfl⟩
  · exact ⟨s.player, rfl⟩

theorem pending?_known {sc : Scenario} {s : State} {id : String} (h : s.pending? sc = some id) :
    (sc.situation? id).isSome := by
  unfold pending? at h
  split at h
  · split at h
    · rename_i known
      cases h
      exact known.2
    · cases h
  · cases h

/-- The end of a turn goes to the situation that is entered on its own, else to the one that was
asked for, else nowhere. -/
theorem resolve_goes {sc : Scenario} {now : Timestamp} {s t : State} {moved : Bool}
    (h : (s.resolve sc now).result = .ok (t, moved)) :
    ∃ entered, (sc.autoEntered s).result = .ok entered ∧
      ((entered.or (s.pending? sc) = none ∧ t = s ∧ moved = false) ∨
        ∃ id, entered.or (s.pending? sc) = some id ∧ (sc.situation? id).isSome ∧
          t = (s.moveTo id).recordEnding sc now ∧ moved = true) := by
  rw [resolve, result_bind] at h
  · obtain ⟨entered, found, h⟩ := bind_eq_ok.1 h
    refine ⟨entered, found, ?_⟩
    split at h
    · rename_i id
      cases h
      exact .inr ⟨id, rfl, lookupLast_isSome.2 (firstEntered_mem found), rfl, rfl⟩
    · split at h
      · rename_i id asked
        cases h
        exact .inr ⟨id, asked, pending?_known asked, rfl, rfl⟩
      · rename_i idle
        cases h
        exact .inl ⟨idle, rfl, rfl⟩
  · intro entered
    split
    · exact steady_pure _
    · split <;> exact steady_pure _

/-- A turn ends where it is, or it moves to a situation of the scenario and records an ending. -/
theorem resolve_eq_ok {sc : Scenario} {now : Timestamp} {s t : State} {moved : Bool}
    (h : (s.resolve sc now).result = .ok (t, moved)) :
    (t = s ∧ moved = false) ∨
      ∃ id, (sc.situation? id).isSome ∧ t = (s.moveTo id).recordEnding sc now ∧ moved = true := by
  obtain ⟨-, -, ⟨-, stays⟩ | ⟨id, -, moves⟩⟩ := resolve_goes h
  · exact .inl stays
  · exact .inr ⟨id, moves⟩

theorem result_finish (sc : Scenario) (now : Timestamp) (rule : Option Nat)
    (p : State × List String) : (finish sc now rule p).result =
      (p.1.resolve sc now).result.map fun q => ⟨q.1, p.2, rule, q.2⟩ := by
  rw [finish, result_bind _ _ fun _ => steady_pure _]
  cases (p.1.resolve sc now).result <;> rfl

theorem finish_eq_ok {sc : Scenario} {now : Timestamp} {rule : Option Nat}
    {p : State × List String} {r : TurnResult} (h : (finish sc now rule p).result = .ok r) :
    (p.1.resolve sc now).result = .ok (r.state, r.moved) ∧ r.lines = p.2 ∧ r.rule = rule := by
  rw [result_finish] at h
  obtain ⟨q, resolved, rfl⟩ := map_eq_ok.1 h
  exact ⟨resolved, rfl, rfl⟩

theorem result_answer (situation : Situation) (actionId : String) (target : Option String)
    (success : Bool) (s : State) :
    (s.answer situation actionId target success).result =
      (situation.ruleFor actionId target s).result >>= fun found =>
        match found with
        | none => .ok (none, s, [])
        | some (i, r) => (s.applyEffects true (r.effectsFor success)).result.map (some i, ·) := by
  rw [answer, result_bind]
  · congr 1
    funext found
    cases found with
    | none => rfl
    | some p =>
      refine (result_bind _ _ fun _ => steady_pure _).trans ?_
      dsimp only
      cases (s.applyEffects true (p.2.effectsFor success)).result <;> rfl
  · intro found
    split
    · exact steady_pure _
    · exact (steady_applyEffects ..).bind fun _ => steady_pure _

theorem result_act_defined {sc : Scenario} {situation : Situation} {s : State}
    (here : sc.situation? s.situation = some situation) (now : Timestamp) (actionId : String)
    (target : Option String) (success : Bool) :
    (s.act sc now actionId target success).result =
      (s.answer situation actionId target success).result >>= fun p =>
        (finish sc now p.1 p.2).result := by
  have acted : s.act sc now actionId target success =
      s.answer situation actionId target success >>= fun p => finish sc now p.1 p.2 := by
    rw [act, here]
  rw [acted, result_bind _ _ fun p => steady_finish ..]

/-- A turn in which a rule fires runs the effects of that rule and comes to its end. -/
theorem result_act_answered {sc : Scenario} {situation : Situation} {s : State} {actionId : String}
    {target : Option String} {i : Nat} {r : Rule} (here : sc.situation? s.situation = some situation)
    (fired : (situation.ruleFor actionId target s).result = .ok (some (i, r))) (now : Timestamp)
    (success : Bool) : (s.act sc now actionId target success).result =
      (s.applyEffects true (r.effectsFor success)).result >>= fun p =>
        (finish sc now (some i) p).result := by
  have answered : (s.answer situation actionId target success).result =
      (s.applyEffects true (r.effectsFor success)).result.map (some i, ·) := by
    rw [result_answer, fired]
    rfl
  rw [result_act_defined here, answered]
  cases (s.applyEffects true (r.effectsFor success)).result <;> rfl

/-- An action is answered by no rule, or by one of the situation, whose effects are run. -/
theorem answer_eq_ok {situation : Situation} {actionId : String} {target : Option String}
    {success : Bool} {s : State} {rule : Option Nat} {p : State × List String}
    (h : (s.answer situation actionId target success).result = .ok (rule, p)) :
    ((situation.ruleFor actionId target s).result = .ok none ∧ rule = none ∧ p = (s, [])) ∨
      ∃ i r, (situation.ruleFor actionId target s).result = .ok (some (i, r)) ∧ rule = some i ∧
        (s.applyEffects true (r.effectsFor success)).result = .ok p := by
  rw [result_answer] at h
  obtain ⟨found, fired, h⟩ := bind_eq_ok.1 h
  cases found with
  | none =>
    cases h
    exact .inl ⟨fired, rfl, rfl⟩
  | some q =>
    obtain ⟨p, applied, same⟩ := map_eq_ok.1 h
    cases same
    exact .inr ⟨q.1, q.2, fired, rfl, applied⟩

theorem act_eq_ok {sc : Scenario} {now : Timestamp} {actionId : String} {target : Option String}
    {success : Bool} {s : State} {r : TurnResult}
    (h : (s.act sc now actionId target success).result = .ok r) :
    (sc.situation? s.situation = none ∧ r = ⟨s, [], none, false⟩) ∨
      ∃ situation rule p, sc.situation? s.situation = some situation ∧
        (s.answer situation actionId target success).result = .ok (rule, p) ∧
        (finish sc now rule p).result = .ok r := by
  cases here : sc.situation? s.situation with
  | none =>
    rw [act, here] at h
    cases h
    exact .inl ⟨rfl, rfl⟩
  | some situation =>
    rw [result_act_defined here] at h
    obtain ⟨⟨rule, p⟩, answered, finished⟩ := bind_eq_ok.1 h
    exact .inr ⟨situation, rule, p, rfl, answered, finished⟩

theorem readEffects_mem {vs : List Value} {es : List Effect} (h : readEffects vs = .ok es) :
    ∀ e ∈ es, ∃ v ∈ vs, Effect.read v = .fits e := by
  intro e mem
  obtain ⟨v, inside, read⟩ := mapM_mem h e mem
  exact ⟨v, inside, Schema.Checked.toExcept_eq_ok.1 read⟩

/-- A list of consequences is read, then it is run, and then come the others. -/
theorem applyLists_cons_eq_ok {vs : List Value} {rest : List (List Value)} {s : State}
    {p : State × List String} (h : (s.applyLists (vs :: rest)).result = .ok p) :
    ∃ es q m, readEffects vs = .ok es ∧ (s.applyEffects false es).result = .ok q ∧
      (q.1.applyLists rest).result = .ok m ∧ p = (m.1, q.2 ++ m.2) := by
  have steady (q : State × List String) : Steady (q.1.applyLists rest >>= fun m =>
      pure (m.1, q.2 ++ m.2) : Noting TurnFailure (State × List String)) :=
    (steady_applyLists rest q.1).bind fun _ => steady_pure _
  rw [applyLists, result_bind _ _ fun es =>
    (steady_applyEffects false es s).adapt.bind steady] at h
  obtain ⟨es, read, h⟩ := bind_eq_ok.1 h
  rw [result_bind _ _ steady] at h
  obtain ⟨q, applied, h⟩ := bind_eq_ok.1 h
  rw [result_bind _ _ fun _ => steady_pure _] at h
  obtain ⟨m, others, h⟩ := bind_eq_ok.1 h
  cases h
  rw [result_ofExcept, mapError_eq_ok] at read
  rw [result_adapt, mapError_eq_ok] at applied
  exact ⟨es, q, m, read, applied, others, rfl⟩

end State

/-- All effects of a scenario, those for failed checks included. -/
def Scenario.effects (sc : Scenario) : List Effect :=
  sc.situations.flatMap fun e => e.2.rules.flatMap fun r => r.effects ++ r.failure.getD []

theorem Rule.effectsFor_subset (r : Rule) (success : Bool) :
    ∀ e ∈ r.effectsFor success, e ∈ r.effects ++ r.failure.getD [] := by
  intro e mem
  unfold effectsFor at mem
  split at mem
  · exact List.mem_append_left _ mem
  · exact List.mem_append_right _ mem

theorem Scenario.mem_effects {sc : Scenario} {id : String} {situation : Situation} {r : Rule}
    {success : Bool} (here : sc.situation? id = some situation) (rule : r ∈ situation.rules) :
    ∀ e ∈ r.effectsFor success, e ∈ sc.effects := by
  intro e mem
  refine List.mem_flatMap.2 ⟨(id, situation), lookupLast_mem here, ?_⟩
  exact List.mem_flatMap.2 ⟨r, rule, r.effectsFor_subset success e mem⟩

namespace Move

/-- The effects that a move may run: those of the scenario's rules, or its own. -/
def Uses (sc : Scenario) : Move → Effect → Prop
  | action .., e => e ∈ sc.effects
  | consequences lists, e => ∃ vs ∈ lists, ∃ v ∈ vs, Effect.read v = .fits e

theorem applyLists_alters {lists : List (List Value)} {s : State} {p : State × List String}
    {among : Effect → Prop} (all : ∀ vs ∈ lists, ∀ v ∈ vs, ∀ e, Effect.read v = .fits e → among e)
    (h : (s.applyLists lists).result = .ok p) : s.AltersBy among p.1 := by
  induction lists generalizing s p with
  | nil =>
    cases h
    exact .refl
  | cons vs rest ih =>
    obtain ⟨es, q, m, read, applied, others, rfl⟩ := State.applyLists_cons_eq_ok h
    have first : s.AltersBy among q.1 := by
      refine State.applyEffects_alters (fun e mem => ?_) applied
      obtain ⟨v, inside, fit⟩ := State.readEffects_mem read e mem
      exact all vs List.mem_cons_self v inside e fit
    have later := ih (p := m) (fun vs mem => all vs (List.mem_cons_of_mem _ mem)) others
    exact first.trans later

/-- A turn in an undefined situation does nothing. Any other turn runs effects, and then it ends
with at most one move. -/
theorem play_eq_ok {sc : Scenario} {now : Timestamp} {s : State} {m : Move} {r : TurnResult}
    (h : (m.play sc now s).result = .ok r) :
    (sc.situation? s.situation = none ∧ r = ⟨s, [], none, false⟩) ∨
      ∃ draft, s.AltersBy (m.Uses sc) draft ∧
        (draft.resolve sc now).result = .ok (r.state, r.moved) := by
  cases m with
  | action id target success =>
    rw [play, result_adapt, mapError_eq_ok] at h
    obtain ⟨unknown, same⟩ | ⟨situation, rule, p, here, answered, finished⟩ := State.act_eq_ok h
    · exact .inl ⟨unknown, same⟩
    · refine .inr ⟨p.1, ?_, (State.finish_eq_ok finished).1⟩
      obtain ⟨-, -, rfl⟩ | ⟨i, r', fired, -, applied⟩ := State.answer_eq_ok answered
      · exact .refl
      · have rule : r' ∈ situation.rules := firstFiring_mem fired
        exact State.applyEffects_alters (Scenario.mem_effects here rule) applied
  | consequences lists =>
    have steady (p : State × List String) :
        Steady ((State.finish sc now none p).adapt TurnFailure.fault) :=
      (State.steady_finish sc now none p).adapt
    rw [play, result_adapt, mapError_eq_ok, State.applyConsequences, result_bind _ _ steady] at h
    obtain ⟨p, applied, h⟩ := bind_eq_ok.1 h
    rw [result_adapt, mapError_eq_ok] at h
    refine .inr ⟨p.1, ?_, (State.finish_eq_ok h).1⟩
    exact applyLists_alters (fun vs inside v mem e fit => ⟨vs, inside, v, mem, fit⟩) applied

end Move

/-- A turn that was played. -/
structure Played where
  before : State
  now : Timestamp
  move : Move
  result : TurnResult

/-- Turns played one after the other, from one state to another. A turn that fails leaves no state
behind, so play goes on from the state before it. -/
inductive Course (sc : Scenario) : State → List Played → State → Prop where
  | nil (s : State) : Course sc s [] s
  | cons {s t : State} {now : Timestamp} {m : Move} {r : TurnResult} {later : List Played}
      (played : (m.play sc now s).result = .ok r) (rest : Course sc r.state later t) :
      Course sc s (⟨s, now, m, r⟩ :: later) t

namespace Course

variable {sc : Scenario} {s t : State} {turns : List Played}

theorem played_of_mem (course : Course sc s turns t) {p : Played} (mem : p ∈ turns) :
    (p.move.play sc p.now p.before).result = .ok p.result := by
  induction course with
  | nil => cases mem
  | cons played _ ih =>
    obtain rfl | later := List.mem_cons.1 mem
    · exact played
    · exact ih later

/-- What every turn keeps, a course keeps. -/
theorem keeps {P : State → Prop} (course : Course sc s turns t)
    (step : ∀ p ∈ turns, (p.move.play sc p.now p.before).result = .ok p.result →
      P p.before → P p.result.state) (start : P s) : P t := by
  induction course with
  | nil => exact start
  | cons played _ ih =>
    have first := step _ List.mem_cons_self played start
    exact ih (fun p mem => step p (List.mem_cons_of_mem _ mem)) first

/-- What every turn keeps, holds before every turn. -/
theorem before {P : State → Prop} (course : Course sc s turns t)
    (step : ∀ p ∈ turns, (p.move.play sc p.now p.before).result = .ok p.result →
      P p.before → P p.result.state) (start : P s) : ∀ p ∈ turns, P p.before := by
  induction course with
  | nil =>
    intro p mem
    cases mem
  | @cons s t now m r later played _ ih =>
    intro p mem
    obtain rfl | after := List.mem_cons.1 mem
    · exact start
    · have first : P r.state := step _ List.mem_cons_self played start
      exact ih (fun p mem => step p (List.mem_cons_of_mem _ mem)) first p after

/-- What every alteration by an effect of a turn keeps, and every move, a course keeps. -/
theorem keepsThrough {P : State → Prop} (course : Course sc s turns t)
    (effect : ∀ p ∈ turns, ∀ e u v, p.move.Uses sc e → State.Alters e u v → P u → P v)
    (move : ∀ now u id, (sc.situation? id).isSome → P u → P ((u.moveTo id).recordEnding sc now))
    (start : P s) : P t := by
  refine course.keeps (fun p mem played before => ?_) start
  obtain ⟨-, same⟩ | ⟨draft, altered, resolved⟩ := Move.play_eq_ok played
  · rw [same]
    exact before
  · have worked : P draft := altered.keeps (effect p mem) before
    obtain ⟨same, -⟩ | ⟨id, known, moved, -⟩ := State.resolve_eq_ok resolved
    · rw [same]
      exact worked
    · rw [moved]
      exact move _ _ _ known worked

/-- The keys of counters and of tracks stay as they are. -/
theorem keys (course : Course sc s turns t) :
    t.counters.map Prod.fst = s.counters.map Prod.fst ∧
      t.tracks.map Prod.fst = s.tracks.map Prod.fst := by
  refine course.keepsThrough (P := fun u => u.counters.map Prod.fst = s.counters.map Prod.fst ∧
      u.tracks.map Prod.fst = s.tracks.map Prod.fst)
    (fun p _ e u v _ altered held => ?_) (fun now u id _ held => ?_) ⟨rfl, rfl⟩
  · exact ⟨altered.counterKeys.trans held.1, altered.trackKeys.trans held.2⟩
  · obtain ⟨player, recorded⟩ := State.recordEnding_eq sc now (u.moveTo id)
    rw [recorded]
    exact held

end Course

end Storyworld
