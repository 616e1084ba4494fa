import Storyworld.Proofs.Turn.Course

/-!
What effects do to counters. An effect brings a counter that is there a new value, a sum or a
literal, and the counter takes it as far as the cap allows; an effect that brings nothing leaves all
counters as they are. What every effect of a scenario keeps of the counters, its actions keep.
-/

namespace Storyworld

open Noting

/-- The counter at the end of a path, if the path leads to one. -/
def counterAt? (path : List Char) : Option String :=
  if String.ofList (Text.partAt '.' path).1 = "counters" then
    some (String.ofList (Text.partAt '.' path).2)
  else none

theorem counterAt?_eq_some {path : List Char} {key : String} (h : counterAt? path = some key) :
    String.ofList (Text.partAt '.' path).1 = "counters" ∧
      String.ofList (Text.partAt '.' path).2 = key := by
  unfold counterAt? at h
  split at h
  · rename_i area
    exact ⟨area, Option.some.inj h⟩
  · cases h

namespace Action

/-- The counter that an action adds to, and the amount. -/
def addsTo? : Action → Option (String × Int)
  | add raw => (amountOf? raw).bind fun p => (counterAt? p.1).map fun key => (key, p.2)
  | _ => none

/-- The counter that an action sets, and what to. -/
def setsTo? : Action → Option (String × Counter)
  | set raw => (splitChange? raw).bind fun p =>
      (counterAt? p.1).bind fun key => (counterOf? p.2).map fun c => (key, c)
  | _ => none

/-- An action does not both add and set. -/
theorem setsTo?_of_addsTo? {a : Action} {p : String × Int} (adds : a.addsTo? = some p) :
    a.setsTo? = none := by
  cases a <;> first | rfl | cases adds

end Action

namespace Effect

def addsTo? (e : Effect) : Option (String × Int) :=
  e.action?.bind Action.addsTo?

def setsTo? (e : Effect) : Option (String × Counter) :=
  e.action?.bind Action.setsTo?

/-- The value that an effect has for a counter, before its cap. -/
inductive Brings (e : Effect) (cs : Counters) : String → Counter → Prop where
  | sum {key : String} {delta : Int} {n v : Number} (adds : e.addsTo? = some (key, delta))
      (known : lookupLast key cs = some (.number n)) (sum : n.add (.int delta) = .ok v) :
      Brings e cs key (.number v)
  | literal {key : String} {c : Counter} (sets : e.setsTo? = some (key, c))
      (known : key ∈ cs.map Prod.fst) : Brings e cs key c

/-- What an effect makes of counters if it runs. -/
inductive Leaves (e : Effect) (cs : Counters) : Counters → Prop where
  | written {key : String} {c : Counter} (brings : e.Brings cs key c) :
      Leaves e cs (putEntry key (c.capped e.cap?) cs)
  | same (nothing : ∀ key c, ¬ e.Brings cs key c) : Leaves e cs cs

variable {e : Effect} {a : Action} {cs : Counters}

theorem addsTo?_eq (does : e.action? = some a) : e.addsTo? = a.addsTo? := by
  rw [addsTo?, does, Option.bind_some]

theorem setsTo?_eq (does : e.action? = some a) : e.setsTo? = a.setsTo? := by
  rw [setsTo?, does, Option.bind_some]

theorem setsTo?_of_addsTo? {p : String × Int} (adds : e.addsTo? = some p) : e.setsTo? = none := by
  obtain ⟨a, does, adds⟩ := Option.bind_eq_some_iff.1 adds
  rw [setsTo?_eq does, Action.setsTo?_of_addsTo? adds]

theorem Brings.unique {key key' : String} {c c' : Counter} (one : e.Brings cs key c)
    (other : e.Brings cs key' c') : key = key' ∧ c = c' := by
  cases one with
  | sum adds known sum =>
    cases other with
    | sum adds' known' sum' =>
      cases adds.symm.trans adds'
      cases known.symm.trans known'
      cases sum.symm.trans sum'
      exact ⟨rfl, rfl⟩
    | literal sets' => cases (setsTo?_of_addsTo? adds).symm.trans sets'
  | literal sets known =>
    cases other with
    | sum adds' => cases (setsTo?_of_addsTo? adds').symm.trans sets
    | literal sets' =>
      cases sets.symm.trans sets'
      exact ⟨rfl, rfl⟩

theorem leaves_same (adds : e.addsTo? = none) (sets : e.setsTo? = none) : e.Leaves cs cs := by
  refine .same fun key c brings => ?_
  cases brings with
  | sum adds' => cases adds.symm.trans adds'
  | literal sets' => cases sets.symm.trans sets'

end Effect

namespace State

variable {s t : State} {e : Effect}

/-- An effect that adds to a counter does that alone, and without a notice. -/
theorem applyEffect_of_adds {key : String} {delta : Int} (adds : e.addsTo? = some (key, delta))
    (narrative : Bool) :
    s.applyEffect narrative e = s.allows e.guard? >>= fun allowed =>
      if allowed then Noting.ofExcept ((s.addToCounter key delta e.cap?).map fun t => (t, []))
      else pure (s, []) := by
  obtain ⟨a, does, adds⟩ := Option.bind_eq_some_iff.1 adds
  cases a with
  | add raw =>
    obtain ⟨⟨path, amount⟩, read, adds⟩ := Option.bind_eq_some_iff.1 adds
    obtain ⟨key', found, same⟩ := Option.map_eq_some_iff.1 adds
    cases same
    obtain ⟨area, name⟩ := counterAt?_eq_some found
    have doing : s.doAdd raw e.cap? = Noting.ofExcept (s.addToCounter key amount e.cap?) := by
      simp only [doAdd, read, if_pos area, name]
    rw [applyEffect]
    congr 1
    funext allowed
    cases allowed with
    | false => rfl
    | true => simp [does, doAction, doing, Action.line?, ofExcept_map]
  | _ => cases adds

theorem result_applyEffect_adds {key : String} {delta : Int}
    (adds : e.addsTo? = some (key, delta)) (narrative : Bool)
    (allowed : (s.allows e.guard?).result = .ok true) :
    (s.applyEffect narrative e).result =
      (s.addToCounter key delta e.cap?).map fun t => (t, []) := by
  have steady (allowed : Bool) : Steady (if allowed then
      Noting.ofExcept ((s.addToCounter key delta e.cap?).map fun t => (t, ([] : List String)))
      else pure (s, [])) := by
    cases allowed <;> simp
  rw [applyEffect_of_adds adds, result_bind _ _ steady, allowed]
  exact result_ofExcept _

theorem addToCounter_number {key : String} {n : Number} (delta : Int) (cap : Option Number)
    (known : lookupLast key s.counters = some (.number n)) :
    s.addToCounter key delta cap =
      (n.add (.int delta)).map fun v => s.setCounter key (.number (capped cap v)) := by
  simp only [addToCounter, known]
  cases n.add (.int delta) <;> rfl

theorem addToCounter_leaves {key : String} {delta : Int} (adds : e.addsTo? = some (key, delta))
    (h : s.addToCounter key delta e.cap? = .ok t) : e.Leaves s.counters t.counters := by
  obtain ⟨n, v, known, sum, rfl⟩ | ⟨other, rfl⟩ := addToCounter_eq_ok h
  · exact .written (.sum adds known sum)
  · refine .same fun key' c brings => ?_
    cases brings with
    | sum adds' known =>
      cases adds.symm.trans adds'
      exact other _ known
    | literal sets' => cases (Effect.setsTo?_of_addsTo? adds).symm.trans sets'

theorem doAdd_leaves {raw : String} (does : e.action? = some (.add raw))
    (h : (s.doAdd raw e.cap?).result = .ok t) : e.Leaves s.counters t.counters := by
  have sets : e.setsTo? = none := Effect.setsTo?_eq does
  obtain ⟨malformed, rfl⟩ | ⟨path, delta, read, place⟩ := doAdd_eq_ok h
  · refine Effect.leaves_same ?_ sets
    simp [Effect.addsTo?_eq does, Action.addsTo?, malformed]
  · have elsewhere (other : String.ofList (Text.partAt '.' path).1 ≠ "counters") :
        e.addsTo? = none := by
      simp [Effect.addsTo?_eq does, Action.addsTo?, read, counterAt?, other]
    obtain ⟨area, added⟩ | ⟨area, shifted⟩ | ⟨other, -, rfl⟩ := place
    · have adds : e.addsTo? = some (String.ofList (Text.partAt '.' path).2, delta) := by
        simp [Effect.addsTo?_eq does, Action.addsTo?, read, counterAt?, area]
      exact addToCounter_leaves adds added
    · obtain ⟨ts, rfl⟩ := shiftTrack_reach shifted
      exact Effect.leaves_same (elsewhere (by simp [area])) sets
    · exact Effect.leaves_same (elsewhere other) sets

theorem setCounterTo_leaves {key : String} {v : List Char} (adds : e.addsTo? = none)
    (sets : e.setsTo? = (counterOf? v).map fun c => (key, c))
    (h : (s.setCounterTo key v e.cap?).result = .ok t) : e.Leaves s.counters t.counters := by
  obtain ⟨c, known, read, rfl⟩ | ⟨unknown | unread, rfl⟩ := setCounterTo_eq_ok h
  · refine .written (.literal ?_ known)
    rw [sets, read]
    rfl
  · refine .same fun key' c brings => ?_
    cases brings with
    | sum adds' => cases adds.symm.trans adds'
    | literal sets' known =>
      obtain ⟨c', -, same⟩ := Option.map_eq_some_iff.1 (sets.symm.trans sets')
      cases same
      exact unknown known
  · exact Effect.leaves_same adds (by rw [sets, unread]; rfl)

/-- The two paths that name no area lead to no counter. -/
theorem counterAt?_plain {path : List Char}
    (plain : String.ofList path = "next_situation" ∨ String.ofList path = "route") :
    counterAt? path = none := by
  obtain same | same := plain
  · have chars : path = "next_situation".toList := by rw [← same, String.toList_ofList]
    rw [chars]
    rfl
  · have chars : path = "route".toList := by rw [← same, String.toList_ofList]
    rw [chars]
    rfl

theorem doSet_leaves {raw : String} (does : e.action? = some (.set raw))
    (h : (s.doSet raw e.cap?).result = .ok t) : e.Leaves s.counters t.counters := by
  have adds : e.addsTo? = none := Effect.addsTo?_eq does
  obtain ⟨malformed, rfl⟩ | ⟨path, v, parts, place⟩ := doSet_eq_ok h
  · refine Effect.leaves_same adds ?_
    simp [Effect.setsTo?_eq does, Action.setsTo?, malformed]
  · have sets : e.setsTo? =
        (counterAt? path).bind fun key => (counterOf? v).map fun c => (key, c) := by
      simp [Effect.setsTo?_eq does, Action.setsTo?, parts]
    have elsewhere (nowhere : counterAt? path = none) : e.Leaves s.counters s.counters :=
      Effect.leaves_same adds (by rw [sets, nowhere]; rfl)
    obtain ⟨next, rfl⟩ | ⟨-, ⟨route, rfl⟩ | ⟨-, ⟨area, set⟩ | ⟨other, rfl⟩⟩⟩ := place
    · exact elsewhere (counterAt?_plain (.inl next))
    · exact elsewhere (counterAt?_plain (.inr route))
    · refine setCounterTo_leaves adds ?_ set
      rw [sets, counterAt?, if_pos area]
      rfl
    · exact elsewhere (if_neg other)

/-- What an action makes of the counters is what its effect has for them, and nothing else. -/
theorem doAction_leaves {a : Action} (does : e.action? = some a)
    (h : (s.doAction a e.cap?).result = .ok t) : e.Leaves s.counters t.counters := by
  cases a with
  | add raw => exact doAdd_leaves does h
  | set raw => exact doSet_leaves does h
  | track raw =>
    obtain ⟨ts, rfl⟩ := doTrack_reach h
    exact Effect.leaves_same (Effect.addsTo?_eq does) (Effect.setsTo?_eq does)
  | addKnownTarget name =>
    cases h
    unfold learnTarget
    split <;> exact Effect.leaves_same (Effect.addsTo?_eq does) (Effect.setsTo?_eq does)
  | _ =>
    cases h
    exact Effect.leaves_same (Effect.addsTo?_eq does) (Effect.setsTo?_eq does)

/-- An effect that is allowed to run writes what it has for a counter, as far as its cap allows. An
effect that is not allowed to run does nothing. -/
theorem applyEffect_counters {narrative : Bool} {lines : List String}
    (h : (s.applyEffect narrative e).result = .ok (t, lines)) :
    ((s.allows e.guard?).result = .ok false ∧ t = s) ∨
      (s.allows e.guard?).result = .ok true ∧ e.Leaves s.counters t.counters := by
  obtain refused | ⟨allowed, ⟨unknown, rfl⟩ | ⟨a, does, done⟩⟩ := applyEffect_eq_ok h
  · exact .inl refused
  · refine .inr ⟨allowed, Effect.leaves_same ?_ ?_⟩
    · rw [Effect.addsTo?, unknown, Option.bind_none]
    · rw [Effect.setsTo?, unknown, Option.bind_none]
  · exact .inr ⟨allowed, doAction_leaves does done⟩

/-- What each effect of a list keeps of the counters if it runs, the list keeps. -/
theorem applyEffects_keepsCounters {P : Counters → Prop} {narrative : Bool} {es : List Effect}
    {lines : List String} (step : ∀ e ∈ es, ∀ cs ds, e.Leaves cs ds → P cs → P ds)
    (h : (s.applyEffects narrative es).result = .ok (t, lines)) (start : P s.counters) :
    P t.counters := by
  induction es generalizing s lines with
  | nil =>
    cases h
    exact start
  | cons e rest ih =>
    obtain ⟨u, first, more, one, others, -⟩ := applyEffects_cons_eq_ok.1 h
    refine ih (fun f mem => step f (List.mem_cons_of_mem _ mem)) others ?_
    obtain ⟨-, rfl⟩ | ⟨-, leaves⟩ := applyEffect_counters one
    · exact start
    · exact step e List.mem_cons_self _ _ leaves start

end State

/-- An action of the player works on the counters by effects of the scenario only. -/
theorem Move.action_keepsCounters {sc : Scenario} {P : Counters → Prop} {now : Timestamp}
    {s : State} {id : String} {target : Option String} {success : Bool} {r : TurnResult}
    (step : ∀ e ∈ sc.effects, ∀ cs ds, e.Leaves cs ds → P cs → P ds)
    (h : ((Move.action id target success).play sc now s).result = .ok r) (start : P s.counters) :
    P r.state.counters := by
  rw [Move.play, result_adapt, mapError_eq_ok] at h
  obtain ⟨-, rfl⟩ | ⟨situation, rule, p, here, answered, finished⟩ := State.act_eq_ok h
  · exact start
  · have worked : P p.1.counters := by
      obtain ⟨-, -, rfl⟩ | ⟨i, r', fired, -, applied⟩ := State.answer_eq_ok answered
      · exact start
      · have known : ∀ e ∈ r'.effectsFor success, e ∈ sc.effects :=
          Scenario.mem_effects here (firstFiring_mem fired)
        exact State.applyEffects_keepsCounters (fun e mem => step e (known e mem)) applied start
    obtain ⟨same, -⟩ | ⟨id, -, moved, -⟩ := State.resolve_eq_ok (State.finish_eq_ok finished).1
    · exact same ▸ worked
    · obtain ⟨player, recorded⟩ := State.recordEnding_eq sc now (p.1.moveTo id)
      rw [moved, recorded]
      exact worked

end Storyworld
