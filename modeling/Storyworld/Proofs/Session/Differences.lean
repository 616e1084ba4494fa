import Storyworld.Proofs.Session.Whole

/-!
The changes that the log tells. Between two states with whole numbers only, the list of changes has
one entry for every counter and every track that is a number in both and differs, in the order of the
later state, and its deltas make up the whole difference. An action of a session tells this list, or
none if nothing differs.
-/

namespace Storyworld

open Noting

/-- The number as a whole one, if it is one. -/
def Number.whole? : Number → Option Int
  | int i => some i
  | float _ => none

/-- The whole number that a counter holds. A flag holds none. -/
def Counter.amount? : Counter → Option Int
  | flag _ => none
  | number n => n.whole?

namespace State

def amount? (s : State) (key : String) : Option Int :=
  (lookupLast key s.counters).bind Counter.amount?

def level? (s : State) (id : String) : Option Int :=
  (lookupLast id s.tracks).bind fun t => t.value.whole?

theorem mem_of_amount? {s : State} {key : String} {n : Int} (known : s.amount? key = some n) :
    key ∈ s.counters.map Prod.fst := by
  obtain ⟨c, found, -⟩ := Option.bind_eq_some_iff.1 known
  exact lookupLast_key found

theorem mem_of_level? {s : State} {id : String} {n : Int} (known : s.level? id = some n) :
    id ∈ s.tracks.map Prod.fst := by
  obtain ⟨t, found, -⟩ := Option.bind_eq_some_iff.1 known
  exact lookupLast_key found

/-- All counters are flags or whole numbers, and all tracks have whole values. -/
structure WholeValues (s : State) : Prop where
  counters : ∀ key c, (key, c) ∈ s.counters → c.Whole
  tracks : ∀ id t, (id, t) ∈ s.tracks → t.value.Whole

instance (s : State) : Decidable s.WholeValues :=
  decidable_of_iff ((∀ e ∈ s.counters, e.2.Whole) ∧ ∀ e ∈ s.tracks, e.2.value.Whole)
    ⟨fun h => ⟨fun key c => h.1 (key, c), fun id t => h.2 (id, t)⟩,
      fun h => ⟨fun e => h.1 e.1 e.2, fun e => h.2 e.1 e.2⟩⟩

end State

/-- Two numbers that are both there and are not the same. -/
def differ : Option Int → Option Int → Bool
  | some a, some b => a != b
  | _, _ => false

/-- The sum of the deltas that a list of changes has under an id. -/
def shiftOf (id : String) (cs : List Change) : Int :=
  (cs.map fun c => if c.id = id then c.delta.whole?.getD 0 else 0).sum

/-- The changes from old to new numbers, in the order of the keys: those keys are listed whose numbers
differ, each once, and an old number with its delta is the new number. -/
structure Listed (keys : List String) (old new : String → Option Int) (cs : List Change) :
    Prop where
  ids : cs.map Change.id = keys.filter fun key => differ (old key) (new key)
  once : (cs.map Change.id).Nodup
  deltas : ∀ c ∈ cs, ∃ a d, old c.id = some a ∧ c.delta = .int d ∧ d ≠ 0 ∧ new c.id = some (a + d)
  total : ∀ key a b, old key = some a → new key = some b → b = a + shiftOf key cs

/-- The changes of counters and those of tracks between two states. -/
structure State.Differences (before after : State) (counters tracks : List Change) : Prop where
  counters : Listed (after.counters.map Prod.fst) before.amount? after.amount? counters
  tracks : Listed (after.tracks.map Prod.fst) before.level? after.level? tracks

/-- What is to be told of one key: nothing if its numbers do not differ, else the difference. -/
inductive Tells (old new : Option Int) (id : String) : Option Change → Prop where
  | nothing (same : differ old new = false) : Tells old new id none
  | change {a b : Int} {c : Change} (before : old = some a) (after : new = some b)
      (moved : a ≠ b) (named : c.id = id) (delta : c.delta = .int (b - a)) :
      Tells old new id (some c)

theorem differ_eq_true {old new : Option Int} :
    differ old new = true ↔ ∃ a b, old = some a ∧ new = some b ∧ a ≠ b := by
  cases old <;> cases new <;> simp [differ]

theorem differ_none_right (old : Option Int) : differ old none = false := by
  cases old <;> rfl

/-! Sums of deltas -/

theorem shiftOf_cons (id : String) (c : Change) (cs : List Change) :
    shiftOf id (c :: cs) =
      (if c.id = id then c.delta.whole?.getD 0 else 0) + shiftOf id cs := by
  simp [shiftOf]

theorem shiftOf_of_not_mem {id : String} {cs : List Change} (new : id ∉ cs.map Change.id) :
    shiftOf id cs = 0 := by
  induction cs with
  | nil => rfl
  | cons c rest ih =>
    simp only [List.map_cons, List.mem_cons, not_or] at new
    rw [shiftOf_cons, if_neg (Ne.symm new.1), ih new.2, Int.zero_add]

theorem shiftOf_of_mem {cs : List Change} {c : Change} {d : Int}
    (once : (cs.map Change.id).Nodup) (mem : c ∈ cs) (delta : c.delta = .int d) :
    shiftOf c.id cs = d := by
  induction cs with
  | nil => cases mem
  | cons first rest ih =>
    obtain ⟨new, once⟩ := List.nodup_cons.1 once
    rw [shiftOf_cons]
    obtain rfl | later := List.mem_cons.1 mem
    · rw [if_pos rfl, shiftOf_of_not_mem new, delta]
      exact Int.add_zero d
    · have other : first.id ≠ c.id := by
        rintro same
        exact new (same ▸ List.mem_map_of_mem later)
      rw [if_neg other, ih once later, Int.zero_add]

/-! Lists of changes -/

section

variable {α : Type} {f : String × α → Except Fault (Option Change)} {m : List (String × α)}
  {old new : String → Option Int}

theorem mapM_tells
    (each : ∀ e ∈ m, ∃ o, f e = .ok o ∧ Tells (old e.1) (new e.1) e.1 o) :
    ∃ os, m.mapM f = .ok os ∧
      (os.filterMap id).map Change.id =
        (m.map Prod.fst).filter (fun key => differ (old key) (new key)) ∧
      ∀ c ∈ os.filterMap id, Tells (old c.id) (new c.id) c.id (some c) := by
  induction m with
  | nil => exact ⟨[], rfl, rfl, nofun⟩
  | cons e rest ih =>
    obtain ⟨o, made, tells⟩ := each e List.mem_cons_self
    obtain ⟨os, others, ids, all⟩ := ih fun e mem => each e (List.mem_cons_of_mem _ mem)
    have listed : (e :: rest).mapM f = .ok (o :: os) := by
      rw [List.mapM_cons, made, others]
      rfl
    refine ⟨o :: os, listed, ?_⟩
    cases tells with
    | nothing same => exact ⟨by simpa [same] using ids, all⟩
    | @change a b c before after moved named delta =>
      have differs : differ (old e.1) (new e.1) = true :=
        differ_eq_true.2 ⟨a, b, before, after, moved⟩
      refine ⟨?_, ?_⟩
      · simpa [differs, named] using ids
      · intro c' mem
        obtain rfl | later := List.mem_cons.1 mem
        · rw [named]
          exact .change before after moved named delta
        · exact all c' later

theorem listed_of_tells (once : (m.map Prod.fst).Nodup)
    (known : ∀ key b, new key = some b → key ∈ m.map Prod.fst)
    (each : ∀ e ∈ m, ∃ o, f e = .ok o ∧ Tells (old e.1) (new e.1) e.1 o) :
    ∃ os, m.mapM f = .ok os ∧ Listed (m.map Prod.fst) old new (os.filterMap id) := by
  obtain ⟨os, made, ids, all⟩ := mapM_tells each
  have single : ((os.filterMap id).map Change.id).Nodup := ids ▸ once.filter _
  have deltas : ∀ c ∈ os.filterMap id,
      ∃ a d, old c.id = some a ∧ c.delta = .int d ∧ d ≠ 0 ∧ new c.id = some (a + d) := by
    intro c mem
    obtain ⟨⟩ | @⟨a, b, _, before, after, moved, -, delta⟩ := all c mem
    exact ⟨a, b - a, before, delta, by omega, by rw [after]; congr 1; omega⟩
  refine ⟨os, made, ids, single, deltas, fun key a b before after => ?_⟩
  by_cases same : a = b
  · have untold : key ∉ (os.filterMap id).map Change.id := by
      rw [ids]
      simp [before, after, same, differ]
    rw [shiftOf_of_not_mem untold, same, Int.add_zero]
  · have told : key ∈ (os.filterMap id).map Change.id := by
      rw [ids]
      exact List.mem_filter.2 ⟨known key b after, differ_eq_true.2 ⟨a, b, before, after, same⟩⟩
    obtain ⟨c, mem, rfl⟩ := List.mem_map.1 told
    obtain ⟨a', d, before', delta, -, after'⟩ := deltas c mem
    cases before.symm.trans before'
    cases after.symm.trans after'
    rw [shiftOf_of_mem single mem delta]

end

/-! The changes between two states -/

section

variable {sc : Scenario} {before after : State}

theorem counterChange_tells (old : before.WholeValues) (key : String) {c : Counter}
    (whole : c.Whole) : ∃ o, counterChange sc before.counters key c = .ok o ∧
      Tells (before.amount? key) c.amount? key o := by
  cases c with
  | flag b => exact ⟨none, rfl, .nothing (differ_none_right _)⟩
  | number n =>
    obtain ⟨b, rfl⟩ := whole n rfl
    unfold counterChange State.amount?
    cases known : lookupLast key before.counters with
    | none => exact ⟨none, rfl, .nothing rfl⟩
    | some c =>
      cases c with
      | flag f => exact ⟨none, rfl, .nothing rfl⟩
      | number m =>
        obtain ⟨a, rfl⟩ := old.counters key _ (lookupLast_mem known) m rfl
        dsimp only
        by_cases same : b = a
        · subst same
          rw [if_pos (by simp [Number.eq_int])]
          exact ⟨none, rfl, .nothing (by simp [differ, Counter.amount?, Number.whole?])⟩
        · rw [if_neg (by simpa [Number.eq_int] using same)]
          exact ⟨_, rfl, .change rfl rfl (Ne.symm same) rfl rfl⟩

theorem trackChange_tells (old : before.WholeValues) (id : String) {t : Track}
    (whole : t.value.Whole) : ∃ o, trackChange sc before.tracks id t = .ok o ∧
      Tells (before.level? id) t.value.whole? id o := by
  obtain ⟨b, value⟩ := whole
  unfold trackChange State.level?
  cases known : lookupLast id before.tracks with
  | none => exact ⟨none, rfl, .nothing rfl⟩
  | some u =>
    obtain ⟨a, level⟩ := old.tracks id _ (lookupLast_mem known)
    dsimp only
    simp only [Option.bind_some, value, level]
    by_cases same : a = b
    · subst same
      rw [if_pos (by simp [Number.eq_int])]
      exact ⟨none, rfl, .nothing (by simp [differ, Number.whole?])⟩
    · rw [if_neg (by simpa [Number.eq_int] using same)]
      cases trackStyle? sc id with
      | none => exact ⟨_, rfl, .change rfl rfl same rfl rfl⟩
      | some style => exact ⟨_, rfl, .change rfl rfl same rfl rfl⟩

/-- The list of changes is made, and it is the difference. -/
theorem changesBetween_differences (sc : Scenario) (old : before.WholeValues) (new : after.WholeValues)
    (counterKeys : (after.counters.map Prod.fst).Nodup)
    (trackKeys : (after.tracks.map Prod.fst).Nodup) : ∃ counters tracks,
      changesBetween sc before after = .ok (counters ++ tracks) ∧
        before.Differences after counters tracks := by
  have amount {key : String} {c : Counter} (mem : (key, c) ∈ after.counters) :
      after.amount? key = c.amount? := by
    rw [State.amount?, (lookupLast_eq_some counterKeys).2 mem, Option.bind_some]
  have level {id : String} {t : Track} (mem : (id, t) ∈ after.tracks) :
      after.level? id = t.value.whole? := by
    rw [State.level?, (lookupLast_eq_some trackKeys).2 mem, Option.bind_some]
  obtain ⟨os, first, counters⟩ : ∃ os,
      after.counters.mapM (fun e => counterChange sc before.counters e.1 e.2) = .ok os ∧
        Listed (after.counters.map Prod.fst) before.amount? after.amount? (os.filterMap id) :=
    listed_of_tells counterKeys (fun _ _ => State.mem_of_amount?)
      fun e mem => amount mem ▸ counterChange_tells old e.1 (new.counters e.1 e.2 mem)
  obtain ⟨ps, second, tracks⟩ : ∃ ps,
      after.tracks.mapM (fun e => trackChange sc before.tracks e.1 e.2) = .ok ps ∧
        Listed (after.tracks.map Prod.fst) before.level? after.level? (ps.filterMap id) :=
    listed_of_tells trackKeys (fun _ _ => State.mem_of_level?)
      fun e mem => level mem ▸ trackChange_tells old e.1 (new.tracks e.1 e.2 mem)
  refine ⟨_, _, ?_, counters, tracks⟩
  rw [changesBetween, ← List.filterMap_append]
  exact bind_of_ok first (bind_of_ok second rfl)

theorem Listed.eq_nil_iff {keys : List String} {old new : String → Option Int} {cs : List Change}
    (listed : Listed keys old new cs) (known : ∀ key b, new key = some b → key ∈ keys) :
    cs = [] ↔ ∀ key, differ (old key) (new key) = false := by
  rw [← List.map_eq_nil_iff (f := Change.id), listed.ids, List.filter_eq_nil_iff]
  constructor
  · intro none key
    rw [← Bool.not_eq_true]
    intro differs
    obtain ⟨a, b, -, after, -⟩ := differ_eq_true.1 differs
    exact none key (known key b after) differs
  · intro same key _
    simp [same key]

/-- Nothing is told if and only if no counter and no track differs. -/
theorem State.Differences.eq_nil_iff {counters tracks : List Change}
    (differences : before.Differences after counters tracks) :
    counters ++ tracks = [] ↔
      (∀ key, differ (before.amount? key) (after.amount? key) = false) ∧
        ∀ id, differ (before.level? id) (after.level? id) = false := by
  rw [List.append_eq_nil_iff, differences.counters.eq_nil_iff fun _ _ => State.mem_of_amount?,
    differences.tracks.eq_nil_iff fun _ _ => State.mem_of_level?]

end

namespace Session

/-- The narrator adds to the entries of a turn at the end. -/
theorem narrate_entries {g : Session} {actionId : String} {request : Narration.Request} {t : Turn}
    {p : Session × Turn} (told : (g.narrate actionId request t).result = .ok p) :
    t.entries <+: p.2.entries := by
  unfold narrate at told
  split at told
  · cases told
    exact List.prefix_rfl
  · dsimp only at told
    split at told
    · cases told
      exact List.prefix_rfl
    · cases told
      exact List.prefix_append ..
    · cases told
      exact List.prefix_append ..

/-- The first entry of an action tells the changes that it has made, if there are any. Counters and
tracks are those that the rules have left. -/
theorem act_tells {g h : Session} {id : String} {target : Option String} {success : Bool} {t : Turn}
    (acted : (g.act id target success).result = .ok (h, t)) :
    ∃ cs e rest, changesBetween g.scenario g.state h.state = .ok cs ∧ t.entries = e :: rest ∧
      e.kind = .action ∧ e.message = actionMessage g.scenario id target ∧
      e.changes = (if cs.isEmpty then none else some cs) ∧
      h.state.counters.map Prod.fst = g.state.counters.map Prod.fst ∧
      h.state.tracks.map Prod.fst = g.state.tracks.map Prod.fst := by
  obtain ⟨r, q, played, committed, told⟩ := act_eq_ok.1 acted
  obtain ⟨p, told', took⟩ := (commit_took committed).2.narrate id
    (.ofTurn g.scenario g.state r id target)
  cases told'.symm.trans told
  obtain ⟨log, state⟩ := took.state
  have keys := (Course.cons played (.nil _)).keys
  rw [commit_eq_bind] at committed
  obtain ⟨noted, entry, committed⟩ := bind_eq_ok.1 committed
  cases committed
  obtain ⟨p, made, rfl⟩ := map_eq_ok.1 entry
  obtain ⟨cs, differ, made⟩ := bind_eq_ok.1 made
  cases made
  obtain ⟨more, entries⟩ := narrate_entries told
  rw [state]
  exact ⟨cs, _, _, differ, entries.symm, rfl, rfl, rfl, keys⟩

end Session

/-- Let two states have every key once and whole values only. Then the list of changes between them
is that of the counters followed by that of the tracks, each in the order of the later state: exactly
the ids are listed whose numbers are there in both states and differ, each once, and the old number
with the delta is the new one. Any action of a session between such states tells this list in its
first entry, so the deltas make up the whole difference; it tells none if and only if no number
differs. -/
theorem changes_are_exact (sc : Scenario) :
    (∀ before after : State, before.WholeValues → after.WholeValues → after.KeysOnce →
      ∃ counters tracks, changesBetween sc before after = .ok (counters ++ tracks) ∧
        before.Differences after counters tracks) ∧
      ∀ (g h : Session) id target success t, g.scenario = sc →
        (g.act id target success).result = .ok (h, t) →
        g.state.WholeValues → h.state.WholeValues → g.state.KeysOnce →
        ∃ e rest counters tracks, t.entries = e :: rest ∧ e.kind = .action ∧
          e.changes.getD [] = counters ++ tracks ∧ g.state.Differences h.state counters tracks ∧
          (e.changes = none ↔
            (∀ key, differ (g.state.amount? key) (h.state.amount? key) = false) ∧
              ∀ track, differ (g.state.level? track) (h.state.level? track) = false) := by
  constructor
  · intro before after old new once
    exact changesBetween_differences sc old new once.counters once.tracks
  · intro g h id target success t same acted old new once
    obtain ⟨cs, e, rest, made, entries, kind, -, changes, counterKeys, trackKeys⟩ :=
      Session.act_tells acted
    obtain ⟨counters, tracks, listed, differences⟩ := changesBetween_differences
      g.scenario old new (counterKeys ▸ once.counters) (trackKeys ▸ once.tracks)
    cases made.symm.trans listed
    refine ⟨e, rest, counters, tracks, entries, kind, ?_, differences, ?_⟩
    · rw [changes]
      cases counters ++ tracks <;> rfl
    · rw [changes, ← differences.eq_nil_iff]
      cases counters ++ tracks <;> simp

/-- A kiln in which one pot breaks at each firing, and whose ash is a flag until it is weighed. -/
def kiln : Scenario where
  version := 1
  id := "kiln"
  title := "The kiln"
  description := ""
  language := .en
  theme := none
  actions := [("fire", ⟨"Fire", "Flame", none⟩)]
  opening := ⟨"yard", [("clay_pots", .number (.int 2)), ("ash", .flag false),
    ("wood", .number (.int 6))], []⟩
  tracks := [("heat", ⟨"Heat", 3, 10⟩)]
  situations := [("yard", {
    label := "Yard"
    description := none
    allowedActions := ["fire"]
    rules := [⟨⟨"fire", none, none, none⟩,
      [⟨[.action (.add "counters.clay_pots,-1")]⟩, ⟨[.action (.set "counters.ash,4")]⟩,
        ⟨[.action (.track "heat,50")]⟩, ⟨[.action (.log "It cracks.")]⟩], none⟩]
    enterIf := none
    ending := false })]
  hints := none

/-- The state of another kiln, with a key that is new and the others in another order. -/
def cold : State :=
  { kiln.start none with
    counters := [("sand", .number (.int 1)), ("wood", .number (.int 2)), ("clay_pots", .flag true)]
    tracks := [("heat", ⟨"Heat", .int 0, .int 10⟩)] }

def kilnSession : Session :=
  ⟨kiln, kiln.start none, [], some 1, none, Session.noon⟩

/-- Only numbers of both states are told of: the ash becomes a number and the pots a flag. -/
theorem changes_are_exact_kiln :
    ∃ h t, (kilnSession.act "fire" none true).result = .ok (h, t) ∧
      kilnSession.state.WholeValues ∧ cold.WholeValues ∧ h.state.WholeValues ∧ cold.KeysOnce ∧
      kilnSession.state.KeysOnce ∧
      (∃ counters tracks,
        changesBetween kiln kilnSession.state cold = .ok (counters ++ tracks) ∧
        counters.map Change.id = ["wood"] ∧ tracks.map Change.id = ["heat"] ∧
        kilnSession.state.Differences cold counters tracks) ∧
      ∃ e rest counters tracks, t.entries = e :: rest ∧ e.kind = .action ∧
        e.changes.getD [] = counters ++ tracks ∧
        kilnSession.state.Differences h.state counters tracks ∧
        counters.map Change.id = ["clay_pots"] ∧ tracks.map Change.id = ["heat"] ∧
        shiftOf "clay_pots" counters = -1 ∧ shiftOf "heat" tracks = 7 := by
  obtain ⟨⟨h, t⟩, acted⟩ : ∃ p, (kilnSession.act "fire" none true).result = .ok p := ⟨_, rfl⟩
  have whole : h.state.WholeValues := by
    cases acted
    decide
  have onces : cold.KeysOnce ∧ kilnSession.state.KeysOnce :=
    ⟨⟨by decide, by decide, by decide⟩, ⟨by decide, by decide, by decide⟩⟩
  obtain ⟨exact, tells⟩ := changes_are_exact kiln
  obtain ⟨counters, tracks, made, cooled⟩ :=
    exact kilnSession.state cold (by decide) (by decide) onces.1
  obtain ⟨e, rest, more, others, entries, kind, changes, fired, -⟩ :=
    tells kilnSession h "fire" none true t rfl acted (by decide) whole onces.2
  refine ⟨h, t, acted, by decide, by decide, whole, onces.1, onces.2,
    ⟨counters, tracks, made, ?_, ?_, cooled⟩,
    e, rest, more, others, entries, kind, changes, fired, ?_, ?_, ?_, ?_⟩
  · rw [cooled.counters.ids]
    decide
  · rw [cooled.tracks.ids]
    decide
  · rw [fired.counters.ids]
    cases acted
    decide
  · rw [fired.tracks.ids]
    cases acted
    decide
  · have total := fired.counters.total "clay_pots" 2 1 rfl (by cases acted; rfl)
    omega
  · have total := fired.tracks.total "heat" 3 10 rfl (by cases acted; rfl)
    omega

end Storyworld
