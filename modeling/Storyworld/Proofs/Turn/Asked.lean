import Storyworld.Proofs.Turn.Place

/-!
Moves that effects ask for. Of the effects that run in a turn the last one that asks for a move
decides; if it asks for a situation of the scenario, the turn ends there, unless a situation is
entered on its own.
-/

namespace Storyworld

open Noting

/-- The situation that an action asks for. -/
def Action.asks? : Action → Option String
  | set raw => (splitChange? raw).bind fun p =>
      if String.ofList p.1 = "next_situation" then some (String.ofList p.2) else none
  | _ => none

def Effect.asks? (e : Effect) : Option String :=
  e.action?.bind Action.asks?

/-- An effect that asks for none but some situations. -/
def Effect.AsksAmong (ids : List String) (e : Effect) : Prop :=
  ∀ id, e.asks? = some id → id ∈ ids

namespace State

variable {s t : State}

theorem doSet_next {raw : String} {cap : Option Number} (h : (s.doSet raw cap).result = .ok t) :
    t.nextSituation = (Action.set raw).asks?.or s.nextSituation := by
  obtain ⟨malformed, rfl⟩ | ⟨path, v, parts, ⟨next, rfl⟩ | ⟨other, rest⟩⟩ := doSet_eq_ok h
  · simp [Action.asks?, malformed]
  · simp [Action.asks?, parts, next]
  · have nothing : (Action.set raw).asks? = none := by simp [Action.asks?, parts, other]
    rw [nothing, Option.none_or]
    obtain ⟨-, rfl⟩ | ⟨-, ⟨-, set⟩ | ⟨-, rfl⟩⟩ := rest
    · rfl
    · obtain ⟨cs, rfl⟩ := setCounterTo_reach set
      rfl
    · rfl

/-- An action leaves the move that it asks for, or else the one that was asked for before. -/
theorem doAction_next {a : Action} {cap : Option Number} (h : (s.doAction a cap).result = .ok t) :
    t.nextSituation = a.asks?.or s.nextSituation := by
  cases a with
  | add raw =>
    obtain ⟨cs, ts, rfl⟩ := doAdd_reach h
    rfl
  | set raw => exact doSet_next h
  | track raw =>
    obtain ⟨ts, rfl⟩ := doTrack_reach h
    rfl
  | addKnownTarget name =>
    cases h
    unfold learnTarget
    split <;> rfl
  | _ =>
    cases h
    rfl

/-- An effect whose guard does not hold does nothing. -/
theorem applyEffect_cases {narrative : Bool} {e : Effect} {lines : List String}
    (h : (s.applyEffect narrative e).result = .ok (t, lines)) :
    ((s.allows e.guard?).result = .ok false ∧ t = s) ∨
      (s.allows e.guard?).result = .ok true ∧ t.nextSituation = e.asks?.or s.nextSituation := by
  obtain refused | ⟨allowed, ⟨unknown, rfl⟩ | ⟨a, does, done⟩⟩ := applyEffect_eq_ok h
  · exact .inl refused
  · exact .inr ⟨allowed, by rw [Effect.asks?, unknown]; rfl⟩
  · exact .inr ⟨allowed, by rw [Effect.asks?, does]; exact doAction_next done⟩

/-- A list of effects at work in the normal flow of play. Those run whose guards hold in what the
effects in front of them have made of the state; `ran` are the effects that run. -/
inductive Runs : State → List Effect → (ran : List Effect) → State → Prop where
  | nil (s : State) : Runs s [] [] s
  | skip {s t : State} {e : Effect} {rest ran : List Effect}
      (refused : (s.allows e.guard?).result = .ok false) (others : Runs s rest ran t) :
      Runs s (e :: rest) ran t
  | run {s u t : State} {e : Effect} {rest ran : List Effect} {lines : List String}
      (allowed : (s.allows e.guard?).result = .ok true)
      (done : (s.applyEffect true e).result = .ok (u, lines)) (others : Runs u rest ran t) :
      Runs s (e :: rest) (e :: ran) t

/-- The effects that run tell their lines, in their order. -/
theorem exists_telling_runs {es : List Effect} {lines : List String}
    (h : (s.applyEffects true es).result = .ok (t, lines)) :
    ∃ ran, Runs s es ran t ∧ lines = ran.filterMap Effect.line? := by
  induction es generalizing s lines with
  | nil =>
    cases h
    exact ⟨[], .nil _, rfl⟩
  | cons e rest ih =>
    obtain ⟨u, first, more, one, others, rfl⟩ := applyEffects_cons_eq_ok.1 h
    obtain ⟨ran, later, told⟩ := ih others
    obtain ⟨refused, rfl, rfl⟩ | ⟨allowed, rfl, -⟩ := applyEffect_told one
    · exact ⟨ran, .skip refused later, told⟩
    · refine ⟨e :: ran, .run allowed one later, ?_⟩
      rw [told, if_pos rfl]
      cases line : e.line? <;> simp [line]

theorem exists_runs {es : List Effect} {lines : List String}
    (h : (s.applyEffects true es).result = .ok (t, lines)) : ∃ ran, Runs s es ran t := by
  obtain ⟨ran, runs, -⟩ := exists_telling_runs h
  exact ⟨ran, runs⟩

theorem Runs.sublist {es ran : List Effect} (h : Runs s es ran t) : ran.Sublist es := by
  induction h with
  | nil => exact .slnil
  | skip _ _ ih => exact .cons _ ih
  | run _ _ _ ih => exact .cons_cons _ ih

/-- The last move that was asked for is the one that is left. -/
theorem Runs.next {es ran : List Effect} (h : Runs s es ran t) :
    t.nextSituation = (ran.filterMap Effect.asks?).getLast?.or s.nextSituation := by
  induction h with
  | nil => rfl
  | skip _ _ ih => exact ih
  | @run s u t e rest ran lines allowed done _ ih =>
    obtain ⟨refused, -⟩ | ⟨-, left⟩ := applyEffect_cases done
    · cases allowed.symm.trans refused
    · rw [ih, left]
      cases asked : e.asks? with
      | none => simp [asked]
      | some id => simp [asked, List.getLast?_cons]

end State

/-- The effects that run in a turn for an action of the player, and what they make of the state. -/
inductive Move.Runs (sc : Scenario) (s : State) : Move → List Effect → State → Prop where
  | unanswered {situation : Situation} {id : String} {target : Option String} {success : Bool}
      (here : sc.situation? s.situation = some situation)
      (silent : (situation.ruleFor id target s).result = .ok none) :
      Runs sc s (.action id target success) [] s
  | answered {situation : Situation} {id : String} {target : Option String} {success : Bool} {i : Nat}
      {r : Rule} {ran : List Effect} {draft : State}
      (here : sc.situation? s.situation = some situation)
      (fired : (situation.ruleFor id target s).result = .ok (some (i, r)))
      (runs : State.Runs s (r.effectsFor success) ran draft) :
      Runs sc s (.action id target success) ran draft

namespace Move

variable {sc : Scenario} {s draft : State} {m : Move} {ran : List Effect}

theorem exists_runs {now : Timestamp} {id : String} {target : Option String} {success : Bool}
    {r : TurnResult} (h : ((Move.action id target success).play sc now s).result = .ok r)
    (known : (sc.situation? s.situation).isSome) :
    ∃ ran draft, Runs sc s (.action id target success) ran draft ∧
      (draft.resolve sc now).result = .ok (r.state, r.moved) := by
  rw [play, result_adapt, mapError_eq_ok] at h
  obtain ⟨unknown, -⟩ | ⟨situation, rule, p, here, answered, finished⟩ := State.act_eq_ok h
  · simp [unknown] at known
  · have resolved := (State.finish_eq_ok finished).1
    obtain ⟨silent, -, rfl⟩ | ⟨i, r', fired, -, applied⟩ := State.answer_eq_ok answered
    · exact ⟨[], s, .unanswered here silent, resolved⟩
    · obtain ⟨ran, runs⟩ := State.exists_runs applied
      exact ⟨ran, p.1, .answered here fired runs, resolved⟩

theorem Runs.next (h : Runs sc s m ran draft) :
    draft.nextSituation = (ran.filterMap Effect.asks?).getLast?.or s.nextSituation := by
  cases h with
  | unanswered => rfl
  | answered _ _ runs => exact runs.next

theorem Runs.mem_effects (h : Runs sc s m ran draft) : ∀ e ∈ ran, e ∈ sc.effects := by
  cases h with
  | unanswered => exact nofun
  | answered here fired runs =>
    exact fun e mem => Scenario.mem_effects here (firstFiring_mem fired) e (runs.sublist.subset mem)

/-- If every move that is asked for leads somewhere, none is left for later, and the last one is made
unless a situation is entered on its own. -/
theorem Runs.settles {now : Timestamp} {t : State} {moved : Bool} (h : Runs sc s m ran draft)
    (named : ∀ id ∈ sc.situations.map Prod.fst, id ≠ "")
    (leads : ∀ e ∈ sc.effects, e.AsksAmong (sc.situations.map Prod.fst))
    (idle : s.nextSituation = none) (resolved : (draft.resolve sc now).result = .ok (t, moved)) :
    t.nextSituation = none ∧ ∃ entered, (sc.autoEntered draft).result = .ok entered ∧
      ∀ place, (ran.filterMap Effect.asks?).getLast? = some place →
        moved = true ∧ t.situation = entered.getD place := by
  have left : draft.nextSituation = (ran.filterMap Effect.asks?).getLast? := by
    rw [h.next, idle, Option.or_none]
  have pending : draft.pending? sc = draft.nextSituation := by
    unfold State.pending?
    cases asked : draft.nextSituation with
    | none => rfl
    | some id =>
      obtain ⟨e, mem, asks⟩ := List.mem_filterMap.1 (List.mem_of_getLast? (left ▸ asked))
      have known := leads e (h.mem_effects e mem) id asks
      exact if_pos ⟨named id known, lookupLast_isSome.2 known⟩
  obtain ⟨entered, found, ⟨stays, same, -⟩ | ⟨id, goes, -, rfl, rfl⟩⟩ := State.resolve_goes resolved
  · have none : draft.nextSituation = none := pending ▸ (Option.or_eq_none_iff.1 stays).2
    refine ⟨same ▸ none, entered, found, fun place asked => ?_⟩
    cases none.symm.trans (left.trans asked)
  · refine ⟨State.recordEnding_nextSituation .., entered, found, fun place asked => ⟨rfl, ?_⟩⟩
    rw [pending, left, asked, Option.or_some] at goes
    rw [State.recordEnding_situation]
    exact (Option.some.inj goes).symm

/-- A turn for an action leaves no move for later if none was left before it. -/
theorem play_settles {now : Timestamp} {id : String} {target : Option String} {success : Bool}
    {r : TurnResult} (h : ((Move.action id target success).play sc now s).result = .ok r)
    (named : ∀ id ∈ sc.situations.map Prod.fst, id ≠ "")
    (leads : ∀ e ∈ sc.effects, e.AsksAmong (sc.situations.map Prod.fst))
    (placed : s.Placed sc) (idle : s.nextSituation = none) :
    r.state.nextSituation = none ∧
      ∃ ran draft entered, Runs sc s (.action id target success) ran draft ∧
        (sc.autoEntered draft).result = .ok entered ∧
        ∀ place, (ran.filterMap Effect.asks?).getLast? = some place →
          r.moved = true ∧ r.state.situation = entered.getD place := by
  obtain ⟨ran, draft, runs, resolved⟩ := exists_runs h placed.known
  obtain ⟨left, entered, found, goes⟩ := runs.settles named leads idle resolved
  exact ⟨left, ran, draft, entered, runs, found, goes⟩

end Move

end Storyworld
