import Mathlib.Logic.Relation
import Storyworld.Proofs.Entries
import Storyworld.Proofs.Turn.Steady

/-!
What effects can do to a state. An effect changes the value under a key that is there, or the route,
the move that is asked for, the inventory or the known targets, and nothing else. What every such
alteration keeps, a list of effects keeps.
-/

namespace Storyworld

open Noting

/-- What an effect sets a counter to, before its cap. -/
def Effect.setting? (e : Effect) : Option Counter :=
  match e.action? with
  | some (.set raw) => (splitChange? raw).bind fun p =>
      if String.ofList (Text.partAt '.' p.1).1 = "counters" then counterOf? p.2 else none
  | _ => none

def Effect.line? (e : Effect) : Option String :=
  e.action?.bind Action.line?

namespace State

inductive Alters (e : Effect) (s : State) : State → Prop where
  | nothing : Alters e s s
  | addition {key : String} {n v : Number} {delta : Int}
      (known : lookupLast key s.counters = some (.number n)) (sum : n.add (.int delta) = .ok v) :
      Alters e s (s.setCounter key (.number (capped e.cap? v)))
  | setting {key : String} {c : Counter} (known : key ∈ s.counters.map Prod.fst)
      (sets : e.setting? = some c) : Alters e s (s.setCounter key (c.capped e.cap?))
  | track {key : String} {t : Track} {delta : Int} {v : Number}
      (known : lookupLast key s.tracks = some t) (moved : t.value.add (.int delta) = .ok v) :
      Alters e s (s.setTrack key { t with value := t.clamp (capped e.cap? v) })
  | route (name : String) : Alters e s { s with route := some name }
  | nextSituation (id : String) : Alters e s { s with nextSituation := some id }
  | inventory (items : List Item) :
      Alters e s { s with player := { s.player with inventory := items } }
  | knownTargets (names : List String) : Alters e s { s with knownTargets := names }

variable {s t : State} {e : Effect}

/-! What each kind of change can do -/

section Changes

variable {key raw : String} {v : List Char} {delta : Int} {cap : Option Number}

theorem addToCounter_eq_ok (h : s.addToCounter key delta cap = .ok t) :
    (∃ n sum, lookupLast key s.counters = some (.number n) ∧ n.add (.int delta) = .ok sum ∧
        t = s.setCounter key (.number (capped cap sum))) ∨
      (∀ n, lookupLast key s.counters ≠ some (.number n)) ∧ t = s := by
  unfold addToCounter at h
  split at h
  · rename_i n known
    obtain ⟨sum, added, set⟩ := bind_eq_ok.1 h
    cases set
    exact .inl ⟨n, sum, known, added, rfl⟩
  · rename_i other
    cases h
    exact .inr ⟨other, rfl⟩

theorem shiftTrack_eq_ok (h : s.shiftTrack key delta cap = .ok t) :
    (∃ track sum, lookupLast key s.tracks = some track ∧ track.value.add (.int delta) = .ok sum ∧
        t = s.setTrack key { track with value := track.clamp (capped cap sum) }) ∨
      lookupLast key s.tracks = none ∧ t = s := by
  unfold shiftTrack at h
  split at h
  · rename_i track known
    obtain ⟨sum, moved, set⟩ := bind_eq_ok.1 h
    cases set
    exact .inl ⟨track, sum, known, moved, rfl⟩
  · rename_i unknown
    cases h
    exact .inr ⟨unknown, rfl⟩

theorem doAdd_eq_ok (h : (s.doAdd raw cap).result = .ok t) :
    (amountOf? raw = none ∧ t = s) ∨
      ∃ path delta, amountOf? raw = some (path, delta) ∧
        ((String.ofList (Text.partAt '.' path).1 = "counters" ∧
            s.addToCounter (String.ofList (Text.partAt '.' path).2) delta cap = .ok t) ∨
          (String.ofList (Text.partAt '.' path).1 = "tracks" ∧
            s.shiftTrack (String.ofList (Text.partAt '.' path).2) delta cap = .ok t) ∨
          String.ofList (Text.partAt '.' path).1 ≠ "counters" ∧
            String.ofList (Text.partAt '.' path).1 ≠ "tracks" ∧ t = s) := by
  unfold doAdd at h
  split at h
  · rename_i malformed
    cases h
    exact .inl ⟨malformed, rfl⟩
  · rename_i path delta read
    refine .inr ⟨path, delta, read, ?_⟩
    dsimp only at h
    split at h
    · rename_i counters
      exact .inl ⟨counters, by simpa using h⟩
    · rename_i elsewhere
      split at h
      · rename_i tracks
        exact .inr (.inl ⟨tracks, by simpa using h⟩)
      · rename_i nowhere
        cases h
        exact .inr (.inr ⟨elsewhere, nowhere, rfl⟩)

theorem setCounterTo_eq_ok (h : (s.setCounterTo key v cap).result = .ok t) :
    (∃ c, key ∈ s.counters.map Prod.fst ∧ counterOf? v = some c ∧
        t = s.setCounter key (c.capped cap)) ∨
      (key ∉ s.counters.map Prod.fst ∨ counterOf? v = none) ∧ t = s := by
  unfold setCounterTo at h
  split at h
  · rename_i unknown
    cases h
    exact .inr ⟨.inl (by simp [← lookupLast_isSome, unknown]), rfl⟩
  · rename_i known
    split at h
    · rename_i c read
      cases h
      exact .inl ⟨c, lookupLast_key known, read, rfl⟩
    · rename_i unread
      cases h
      exact .inr ⟨.inr unread, rfl⟩

theorem doSet_eq_ok (h : (s.doSet raw cap).result = .ok t) :
    (splitChange? raw = none ∧ t = s) ∨
      ∃ path v, splitChange? raw = some (path, v) ∧
        ((String.ofList path = "next_situation" ∧
            t = { s with nextSituation := some (String.ofList v) }) ∨
          String.ofList path ≠ "next_situation" ∧
            ((String.ofList path = "route" ∧ t = { s with route := some (String.ofList v) }) ∨
              String.ofList path ≠ "route" ∧
                ((String.ofList (Text.partAt '.' path).1 = "counters" ∧
                    (s.setCounterTo (String.ofList (Text.partAt '.' path).2) v cap).result =
                      .ok t) ∨
                  String.ofList (Text.partAt '.' path).1 ≠ "counters" ∧ t = s))) := by
  unfold doSet at h
  split at h
  · rename_i malformed
    cases h
    exact .inl ⟨malformed, rfl⟩
  · rename_i path v parts
    refine .inr ⟨path, v, parts, ?_⟩
    split at h
    · rename_i next
      cases h
      exact .inl ⟨next, rfl⟩
    · rename_i notNext
      refine .inr ⟨notNext, ?_⟩
      split at h
      · rename_i route
        cases h
        exact .inl ⟨route, rfl⟩
      · rename_i notRoute
        refine .inr ⟨notRoute, ?_⟩
        dsimp only at h
        split at h
        · rename_i counters
          exact .inl ⟨counters, h⟩
        · rename_i elsewhere
          cases h
          exact .inr ⟨elsewhere, rfl⟩

theorem doTrack_eq_ok (h : (s.doTrack raw cap).result = .ok t) :
    (amountOf? raw = none ∧ t = s) ∨
      ∃ key delta, amountOf? raw = some (key, delta) ∧
        s.shiftTrack (String.ofList key) delta cap = .ok t := by
  unfold doTrack at h
  split at h
  · rename_i malformed
    cases h
    exact .inl ⟨malformed, rfl⟩
  · rename_i key delta read
    exact .inr ⟨key, delta, read, by simpa using h⟩

/-! The parts of the state that a change can reach -/

theorem addToCounter_reach (h : s.addToCounter key delta cap = .ok t) :
    ∃ cs, t = { s with counters := cs } := by
  obtain ⟨n, sum, -, -, rfl⟩ | ⟨-, rfl⟩ := addToCounter_eq_ok h <;> exact ⟨_, rfl⟩

theorem shiftTrack_reach (h : s.shiftTrack key delta cap = .ok t) :
    ∃ ts, t = { s with tracks := ts } := by
  obtain ⟨track, sum, -, -, rfl⟩ | ⟨-, rfl⟩ := shiftTrack_eq_ok h <;> exact ⟨_, rfl⟩

theorem doAdd_reach (h : (s.doAdd raw cap).result = .ok t) :
    ∃ cs ts, t = { s with counters := cs, tracks := ts } := by
  obtain ⟨-, rfl⟩ | ⟨path, delta, -, ⟨-, added⟩ | ⟨-, shifted⟩ | ⟨-, -, rfl⟩⟩ := doAdd_eq_ok h
  · exact ⟨_, _, rfl⟩
  · obtain ⟨cs, rfl⟩ := addToCounter_reach added
    exact ⟨cs, _, rfl⟩
  · obtain ⟨ts, rfl⟩ := shiftTrack_reach shifted
    exact ⟨_, ts, rfl⟩
  · exact ⟨_, _, rfl⟩

theorem setCounterTo_reach (h : (s.setCounterTo key v cap).result = .ok t) :
    ∃ cs, t = { s with counters := cs } := by
  obtain ⟨c, -, -, rfl⟩ | ⟨-, rfl⟩ := setCounterTo_eq_ok h <;> exact ⟨_, rfl⟩

theorem doSet_reach (h : (s.doSet raw cap).result = .ok t) :
    ∃ cs route next, t = { s with counters := cs, route := route, nextSituation := next } := by
  obtain ⟨-, rfl⟩ | ⟨path, v, -, ⟨-, rfl⟩ | ⟨-, ⟨-, rfl⟩ | ⟨-, ⟨-, set⟩ | ⟨-, rfl⟩⟩⟩⟩ := doSet_eq_ok h
  · exact ⟨_, _, _, rfl⟩
  · exact ⟨_, _, _, rfl⟩
  · exact ⟨_, _, _, rfl⟩
  · obtain ⟨cs, rfl⟩ := setCounterTo_reach set
    exact ⟨cs, _, _, rfl⟩
  · exact ⟨_, _, _, rfl⟩

theorem doTrack_reach (h : (s.doTrack raw cap).result = .ok t) :
    ∃ ts, t = { s with tracks := ts } := by
  obtain ⟨-, rfl⟩ | ⟨key, delta, -, shifted⟩ := doTrack_eq_ok h
  · exact ⟨_, rfl⟩
  · exact shiftTrack_reach shifted

end Changes

/-! Alterations by actions -/

theorem addToCounter_alters {key : String} {delta : Int}
    (h : s.addToCounter key delta e.cap? = .ok t) : Alters e s t := by
  obtain ⟨n, sum, known, added, rfl⟩ | ⟨-, rfl⟩ := addToCounter_eq_ok h
  · exact .addition known added
  · exact .nothing

theorem shiftTrack_alters {key : String} {delta : Int}
    (h : s.shiftTrack key delta e.cap? = .ok t) : Alters e s t := by
  obtain ⟨track, sum, known, moved, rfl⟩ | ⟨-, rfl⟩ := shiftTrack_eq_ok h
  · exact .track known moved
  · exact .nothing

theorem doAdd_alters {raw : String} (h : (s.doAdd raw e.cap?).result = .ok t) : Alters e s t := by
  obtain ⟨-, rfl⟩ | ⟨path, delta, -, ⟨-, added⟩ | ⟨-, shifted⟩ | ⟨-, -, rfl⟩⟩ := doAdd_eq_ok h
  · exact .nothing
  · exact addToCounter_alters added
  · exact shiftTrack_alters shifted
  · exact .nothing

theorem doSet_alters {raw : String} (does : e.action? = some (.set raw))
    (h : (s.doSet raw e.cap?).result = .ok t) : Alters e s t := by
  obtain ⟨-, rfl⟩ |
    ⟨path, v, parts, ⟨-, rfl⟩ | ⟨-, ⟨-, rfl⟩ | ⟨-, ⟨area, set⟩ | ⟨-, rfl⟩⟩⟩⟩ := doSet_eq_ok h
  · exact .nothing
  · exact .nextSituation _
  · exact .route _
  · obtain ⟨c, known, read, rfl⟩ | ⟨-, rfl⟩ := setCounterTo_eq_ok set
    · have sets : e.setting? = some c := by simp [Effect.setting?, does, parts, area, read]
      exact .setting known sets
    · exact .nothing
  · exact .nothing

theorem doTrack_alters {raw : String} (h : (s.doTrack raw e.cap?).result = .ok t) :
    Alters e s t := by
  obtain ⟨-, rfl⟩ | ⟨key, delta, -, shifted⟩ := doTrack_eq_ok h
  · exact .nothing
  · exact shiftTrack_alters shifted

theorem doAction_alters {a : Action} (does : e.action? = some a)
    (h : (s.doAction a e.cap?).result = .ok t) : Alters e s t := by
  cases a with
  | add raw => exact doAdd_alters h
  | set raw => exact doSet_alters does h
  | track raw => exact doTrack_alters h
  | log | secret | agreement =>
    cases h
    exact .nothing
  | giveItem item =>
    cases h
    unfold Player.give
    split
    · exact .nothing
    · exact .inventory _
  | removeItem id =>
    cases h
    exact .inventory _
  | addKnownTarget name =>
    cases h
    unfold learnTarget
    split
    · exact .nothing
    · exact .knownTargets _

/-- An effect asks its guard and then does its action, if it has one. -/
theorem result_applyEffect (narrative : Bool) (e : Effect) (s : State) :
    (s.applyEffect narrative e).result = (s.allows e.guard?).result >>= fun allowed =>
      if allowed then
        match e.action? with
        | none => .ok (s, [])
        | some a => (s.doAction a e.cap?).result.map fun t =>
            (t, if narrative then a.line?.toList else [])
      else .ok (s, []) := by
  unfold applyEffect
  rw [result_bind]
  · congr 1
    funext allowed
    cases allowed with
    | false => rfl
    | true =>
      cases e.action? with
      | none => rfl
      | some a =>
        rw [if_pos rfl]
        refine (result_bind _ _ fun _ => steady_pure _).trans ?_
        dsimp only
        generalize (s.doAction a e.cap?).result = done
        cases done <;> rfl
  · intro allowed
    split
    · exact steady_pure _
    · split
      · exact (steady_warn _).bind fun _ => steady_pure _
      · exact (steady_doAction ..).bind fun _ => steady_pure _

/-- What an effect can do: nothing if its guard does not hold or its action is not known, else its
action. It tells its line if it has one and is in the flow of the story. -/
theorem applyEffect_told {narrative : Bool} {lines : List String}
    (h : (s.applyEffect narrative e).result = .ok (t, lines)) :
    ((s.allows e.guard?).result = .ok false ∧ t = s ∧ lines = []) ∨
      (s.allows e.guard?).result = .ok true ∧
        lines = (if narrative then e.line?.toList else []) ∧
        ((e.action? = none ∧ t = s) ∨
          ∃ a, e.action? = some a ∧ (s.doAction a e.cap?).result = .ok t) := by
  rw [result_applyEffect] at h
  obtain ⟨allowed, weighed, h⟩ := bind_eq_ok.1 h
  cases allowed with
  | false =>
    cases h
    exact .inl ⟨weighed, rfl, rfl⟩
  | true =>
    refine .inr ⟨weighed, ?_⟩
    rw [if_pos rfl] at h
    split at h
    · rename_i unknown
      cases h
      refine ⟨?_, .inl ⟨unknown, rfl⟩⟩
      rw [Effect.line?, unknown]
      exact (ite_self _).symm
    · rename_i a does
      obtain ⟨u, done, same⟩ := map_eq_ok.1 h
      cases same
      refine ⟨?_, .inr ⟨a, does, done⟩⟩
      rw [Effect.line?, does]
      rfl

theorem applyEffect_eq_ok {narrative : Bool} {lines : List String}
    (h : (s.applyEffect narrative e).result = .ok (t, lines)) :
    ((s.allows e.guard?).result = .ok false ∧ t = s) ∨
      (s.allows e.guard?).result = .ok true ∧
        ((e.action? = none ∧ t = s) ∨
          ∃ a, e.action? = some a ∧ (s.doAction a e.cap?).result = .ok t) := by
  obtain ⟨refused, same, -⟩ | ⟨allowed, -, worked⟩ := applyEffect_told h
  · exact .inl ⟨refused, same⟩
  · exact .inr ⟨allowed, worked⟩

theorem applyEffect_alters {narrative : Bool} {lines : List String}
    (h : (s.applyEffect narrative e).result = .ok (t, lines)) : Alters e s t := by
  obtain ⟨-, rfl⟩ | ⟨-, ⟨-, rfl⟩ | ⟨a, does, done⟩⟩ := applyEffect_eq_ok h
  · exact .nothing
  · exact .nothing
  · exact doAction_alters does done

theorem applyEffects_cons_eq_ok {narrative : Bool} {rest : List Effect}
    {lines : List String} :
    (s.applyEffects narrative (e :: rest)).result = .ok (t, lines) ↔
      ∃ u first more, (s.applyEffect narrative e).result = .ok (u, first) ∧
        (u.applyEffects narrative rest).result = .ok (t, more) ∧ lines = first ++ more := by
  have steady (p : State × List String) : Steady (p.1.applyEffects narrative rest >>= fun q =>
      pure (q.1, p.2 ++ q.2) : Noting Fault (State × List String)) :=
    (steady_applyEffects narrative rest p.1).bind fun _ => steady_pure _
  rw [applyEffects, result_bind _ _ steady, bind_eq_ok]
  constructor
  · rintro ⟨⟨u, first⟩, one, others⟩
    rw [result_bind _ _ fun _ => steady_pure _] at others
    obtain ⟨⟨t', more⟩, done, same⟩ := bind_eq_ok.1 others
    cases same
    exact ⟨u, first, more, one, done, rfl⟩
  · rintro ⟨u, first, more, one, done, rfl⟩
    refine ⟨(u, first), one, ?_⟩
    rw [result_bind _ _ fun _ => steady_pure _]
    exact bind_eq_ok.2 ⟨(t, more), done, rfl⟩

/-- The effects of one list and then those of another. -/
theorem applyEffects_append (narrative : Bool) (es fs : List Effect) (s : State) :
    s.applyEffects narrative (es ++ fs) = (do
      let p ← s.applyEffects narrative es
      let q ← p.1.applyEffects narrative fs
      return (q.1, p.2 ++ q.2)) := by
  induction es generalizing s with
  | nil => simp [applyEffects]
  | cons e rest ih => simp [applyEffects, ih]

/-- Any number of alterations by effects of some kind, one after the other. -/
abbrev AltersBy (among : Effect → Prop) : State → State → Prop :=
  Relation.ReflTransGen fun s t => ∃ e, among e ∧ Alters e s t

theorem applyEffects_alters {narrative : Bool} {es : List Effect} {among : Effect → Prop}
    {lines : List String} (all : ∀ e ∈ es, among e)
    (h : (s.applyEffects narrative es).result = .ok (t, lines)) : AltersBy among s t := by
  induction es generalizing s lines with
  | nil =>
    cases h
    exact .refl
  | cons e rest ih =>
    obtain ⟨u, first, more, one, others, -⟩ := applyEffects_cons_eq_ok.1 h
    have later := ih (fun e mem => all e (List.mem_cons_of_mem _ mem)) others
    exact .head ⟨e, all e List.mem_cons_self, applyEffect_alters one⟩ later

/-- What each alteration by such effects keeps, all of them keep. -/
theorem AltersBy.keeps {among : Effect → Prop} {P : State → Prop}
    (step : ∀ e s t, among e → Alters e s t → P s → P t) (h : AltersBy among s t)
    (start : P s) : P t := by
  induction h with
  | refl => exact start
  | tail _ last ih =>
    obtain ⟨e, mem, altered⟩ := last
    exact step e _ _ mem altered ih

theorem Alters.situation (h : Alters e s t) : t.situation = s.situation := by
  cases h <;> rfl

theorem Alters.history (h : Alters e s t) : t.player.history = s.player.history := by
  cases h <;> rfl

theorem Alters.counterKeys (h : Alters e s t) :
    t.counters.map Prod.fst = s.counters.map Prod.fst := by
  cases h with
  | addition known => exact putEntry_keys (lookupLast_key known)
  | setting known => exact putEntry_keys known
  | _ => rfl

theorem Alters.trackKeys (h : Alters e s t) :
    t.tracks.map Prod.fst = s.tracks.map Prod.fst := by
  cases h with
  | track known moved => exact putEntry_keys (lookupLast_key known)
  | _ => rfl

/-- A part of the state that no alteration changes is the same after all of them. -/
theorem AltersBy.same {among : Effect → Prop} {α : Type} {part : State → α}
    (step : ∀ {e s t}, Alters e s t → part t = part s) (h : AltersBy among s t) :
    part t = part s :=
  h.keeps (fun _ _ _ _ altered kept => (step altered).trans kept) rfl

end State

end Storyworld
