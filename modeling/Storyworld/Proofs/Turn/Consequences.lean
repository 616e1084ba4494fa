import Storyworld.Proofs.Turn.Belongings
import Storyworld.State.Consequence

/-!
Consequences beside actions. An action that a rule answers and the effects of that rule as
consequences go two ways that differ in the lines of the story alone, and these no guard and no
effect can see. So both ways lead to one state, and the lists of a sequence of consequences can be
joined.
-/

namespace Storyworld

open Noting

theorem proceduralEntries_eq (first : Int) (lines : List String) :
    proceduralEntries first lines =
      lines.mapIdx fun k line => ⟨first + k, .procedural, line, none, none⟩ := by
  induction lines generalizing first with
  | nil => rfl
  | cons line rest ih =>
    rw [proceduralEntries, ih, List.mapIdx_cons]
    simp [Int.add_assoc, Int.add_comm 1]

theorem readConsequences_loaded (es : List Effect) :
    readConsequences (es.map .loaded) = .ok es := by
  induction es with
  | nil => rfl
  | cons e rest ih =>
    unfold readConsequences at ih ⊢
    rw [List.map_cons, List.mapM_cons, ih]
    rfl

theorem readConsequences_append_eq_ok {cs ds : List Consequence} {es : List Effect} :
    readConsequences (cs ++ ds) = .ok es ↔
      ∃ fs gs, readConsequences cs = .ok fs ∧ readConsequences ds = .ok gs ∧ es = fs ++ gs := by
  rw [readConsequences, List.mapM_append]
  simp only [bind_eq_ok]
  constructor
  · rintro ⟨fs, first, gs, more, same⟩
    cases same
    exact ⟨fs, gs, first, more, rfl⟩
  · rintro ⟨fs, gs, first, more, rfl⟩
    exact ⟨fs, first, gs, more, rfl⟩

/-- The number after the highest one in a log, or one if the log is empty. -/
def IsFirstFree (log : List LogEntry) (n : Int) : Prop :=
  (log = [] ∧ n = 1) ∨ ∃ e ∈ log, (∀ f ∈ log, f.id ≤ e.id) ∧ n = e.id + 1

theorem foldl_max_cases (e : LogEntry) (rest : List LogEntry) :
    ∃ g ∈ e :: rest, (∀ f ∈ e :: rest, f.id ≤ g.id) ∧
      rest.foldl (fun m f => max m f.id) e.id = g.id := by
  induction rest generalizing e with
  | nil => exact ⟨e, by simp, by simp, rfl⟩
  | cons f rest ih =>
    obtain higher | lower := Int.le_total e.id f.id
    · obtain ⟨g, mem, most, same⟩ := ih f
      refine ⟨g, List.mem_cons_of_mem _ mem, ?_, ?_⟩
      · refine List.forall_mem_cons.2 ⟨?_, most⟩
        exact Int.le_trans higher (most f List.mem_cons_self)
      · rw [List.foldl_cons, max_eq_right higher, same]
    · obtain ⟨g, mem, most, same⟩ := ih e
      obtain ⟨first, others⟩ := List.forall_mem_cons.1 most
      refine ⟨g, ?_, ?_, ?_⟩
      · obtain rfl | later := List.mem_cons.1 mem
        · exact List.mem_cons_self
        · exact List.mem_cons_of_mem _ (List.mem_cons_of_mem _ later)
      · refine List.forall_mem_cons.2 ⟨first, List.forall_mem_cons.2 ⟨?_, others⟩⟩
        exact Int.le_trans lower first
      · rw [List.foldl_cons, max_eq_left lower, same]

namespace State

variable {sc : Scenario} {now : Timestamp} {s t : State}

theorem nextLogId_isFirstFree (s : State) : IsFirstFree s.log s.nextLogId := by
  unfold nextLogId
  cases s.log with
  | nil => exact .inl ⟨rfl, rfl⟩
  | cons e rest =>
    obtain ⟨g, mem, most, same⟩ := foldl_max_cases e rest
    exact .inr ⟨g, mem, most, congrArg (· + 1) same⟩

/-- If all consequences can be read, it does not matter that later lists are read when earlier ones
have been run. -/
theorem followLists_of_read {lists : List (List Consequence)} {es : List Effect}
    (read : readConsequences lists.flatten = .ok es) :
    s.followLists lists = (s.applyEffects false es).adapt TurnFailure.fault := by
  induction lists generalizing s es with
  | nil =>
    cases read
    rfl
  | cons cs rest ih =>
    obtain ⟨fs, gs, first, others, rfl⟩ := readConsequences_append_eq_ok.1 read
    rw [followLists, first, applyEffects_append, adapt_bind]
    -- what was read is at hand, so the effects of the first list come next
    change (s.applyEffects false fs).adapt TurnFailure.fault >>= _ = _
    congr 1
    funext p
    rw [adapt_bind]
    change p.1.followLists rest >>= _ = _
    rw [ih others]
    rfl

theorem readConsequences_documents (vs : List Value) :
    readConsequences (vs.map .document) = readEffects vs := by
  rw [readConsequences, List.mapM_map]
  rfl

/-- Consequences that are all written in documents are those of a turn of play. -/
theorem follow_documents (lists : List (List Value)) :
    s.follow sc now (lists.map fun vs => vs.map .document) = s.applyConsequences sc now lists := by
  have each (t : State) :
      t.followLists (lists.map fun vs => vs.map .document) = t.applyLists lists := by
    induction lists generalizing t with
    | nil => rfl
    | cons vs rest ih =>
      rw [List.map_cons, followLists, applyLists, readConsequences_documents]
      simp only [ih]
  rw [follow, each, applyConsequences]

theorem steady_followLists (lists : List (List Consequence)) (s : State) :
    Steady (s.followLists lists) := by
  induction lists generalizing s with
  | nil => exact steady_pure _
  | cons cs rest ih =>
    exact (steady_ofExcept _).bind fun es =>
      (steady_applyEffects false es s).adapt.bind fun p =>
        (ih p.1).bind fun _ => steady_pure _

/-- Consequences that have been followed could all be read. -/
theorem reads_of_followLists {lists : List (List Consequence)} {p : State × List String}
    (h : (s.followLists lists).result = .ok p) :
    ∃ es, readConsequences lists.flatten = .ok es := by
  induction lists generalizing s p with
  | nil => exact ⟨[], rfl⟩
  | cons cs rest ih =>
    have steady (q : State × List String) : Steady (q.1.followLists rest >>= fun m =>
        pure (m.1, q.2 ++ m.2) : Noting TurnFailure (State × List String)) :=
      (steady_followLists rest q.1).bind fun _ => steady_pure _
    rw [followLists, result_bind _ _ fun es =>
      (steady_applyEffects false es s).adapt.bind steady] at h
    obtain ⟨fs, read, h⟩ := bind_eq_ok.1 h
    rw [result_bind _ _ steady] at h
    obtain ⟨q, -, h⟩ := bind_eq_ok.1 h
    rw [result_bind _ _ fun _ => steady_pure _] at h
    obtain ⟨m, later, -⟩ := bind_eq_ok.1 h
    rw [result_ofExcept, mapError_eq_ok] at read
    obtain ⟨gs, others⟩ := ih later
    exact ⟨fs ++ gs, readConsequences_append_eq_ok.2 ⟨fs, gs, read, others, rfl⟩⟩

theorem result_finish_moved (rule : Option Nat) (p : State × List String) :
    (finish sc now rule p).result.map (fun q => (q.state, q.moved)) =
      (p.1.resolve sc now).result := by
  rw [result_finish]
  cases (p.1.resolve sc now).result <;> rfl

theorem follow_of_read {lists : List (List Consequence)} {es : List Effect}
    (read : readConsequences lists.flatten = .ok es) :
    s.follow sc now lists = (s.applyEffects false es >>= finish sc now none).adapt .fault := by
  rw [follow, followLists_of_read read, adapt_bind]

theorem follow_flatten {lists : List (List Consequence)} {es : List Effect}
    (read : readConsequences lists.flatten = .ok es) :
    s.follow sc now lists = s.follow sc now [lists.flatten] := by
  have single : readConsequences [lists.flatten].flatten = .ok es := by
    rwa [List.flatten_singleton]
  rw [follow_of_read read, follow_of_read single]

theorem follow_reads {lists : List (List Consequence)} {q : TurnResult}
    (h : (s.follow sc now lists).result = .ok q) :
    ∃ es, readConsequences lists.flatten = .ok es := by
  rw [follow, result_bind _ _ fun p => (steady_finish sc now none p).adapt] at h
  obtain ⟨p, followed, -⟩ := bind_eq_ok.1 h
  exact reads_of_followLists followed

theorem result_follow {lists : List (List Consequence)} {es : List Effect}
    (read : readConsequences lists.flatten = .ok es) :
    (s.follow sc now lists).result.map (fun q => (q.state, q.moved)) =
      ((s.applyEffects true es).result >>= fun p => (p.1.resolve sc now).result).mapError
        .fault := by
  rw [follow_of_read read, result_adapt, map_mapError,
    result_bind _ _ fun p => steady_finish .., applyEffects_untold, result_map]
  congr 1
  cases (s.applyEffects true es).result with
  | error f => rfl
  | ok p => exact result_finish_moved none (p.1, [])

theorem result_act {situation : Situation} {id : String} {target : Option String} {success : Bool}
    {i : Nat} {r : Rule} (here : sc.situation? s.situation = some situation)
    (fired : (situation.ruleFor id target s).result = .ok (some (i, r))) :
    (s.act sc now id target success).result.map (fun q => (q.state, q.moved)) =
      (s.applyEffects true (r.effectsFor success)).result >>= fun p =>
        (p.1.resolve sc now).result := by
  rw [result_act_answered here fired]
  cases (s.applyEffects true (r.effectsFor success)).result with
  | error f => rfl
  | ok p => exact result_finish_moved (some i) p

/-- An action that a rule answers does to the state what the effects of that rule do as
consequences. It tells the lines of the effects that run, in their order, in entries that are
numbered from the first free number of the log on. A sequence of lists of consequences works like
one list of them all, and consequences tell nothing. -/
theorem consequences_agree_with_rules (sc : Scenario) (now : Timestamp) (s : State) :
    (∀ situation id target success i r, sc.situation? s.situation = some situation →
      (situation.ruleFor id target s).result = .ok (some (i, r)) →
        (s.follow sc now [(r.effectsFor success).map .loaded]).result.map
            (fun q => (q.state, q.moved)) =
          ((s.act sc now id target success).result.map fun q => (q.state, q.moved)).mapError
            .fault ∧
        ∀ q, (s.act sc now id target success).result = .ok q →
          ∃ ran draft first, Runs s (r.effectsFor success) ran draft ∧ IsFirstFree s.log first ∧
            q.entries s = (ran.filterMap Effect.line?).mapIdx fun k line =>
              ⟨first + k, .procedural, line, none, none⟩) ∧
      ∀ lists : List (List Consequence),
        (∀ q, (s.follow sc now lists).result = .ok q ↔
          (s.follow sc now [lists.flatten]).result = .ok q) ∧
        (∀ es, readConsequences lists.flatten = .ok es →
          s.follow sc now lists = s.follow sc now [lists.flatten]) ∧
        ∀ q, (s.follow sc now lists).result = .ok q → q.entries s = [] := by
  refine ⟨fun situation id target success i r here fired => ⟨?_, fun q acted => ?_⟩,
    fun lists => ⟨fun q => ?_, fun es => follow_flatten, fun q followed => ?_⟩⟩
  · have read := readConsequences_loaded (r.effectsFor success)
    rw [← List.flatten_singleton (l := (r.effectsFor success).map Consequence.loaded)] at read
    rw [result_act here fired, result_follow read]
  · obtain ⟨unknown, -⟩ | ⟨situation', rule, p, here', answered, finished⟩ := act_eq_ok acted
    · cases here.symm.trans unknown
    · cases here.symm.trans here'
      obtain ⟨silent, -⟩ | ⟨i', r', fired', -, applied⟩ := answer_eq_ok answered
      · cases fired.symm.trans silent
      · cases fired.symm.trans fired'
        obtain ⟨ran, runs, told⟩ := exists_telling_runs applied
        refine ⟨ran, p.1, s.nextLogId, runs, nextLogId_isFirstFree s, ?_⟩
        rw [TurnResult.entries, (finish_eq_ok finished).2.1, told, proceduralEntries_eq]
  · constructor
    · intro followed
      obtain ⟨es, read⟩ := follow_reads followed
      exact follow_flatten read ▸ followed
    · intro followed
      obtain ⟨es, read⟩ := follow_reads followed
      rw [List.flatten_singleton] at read
      exact (follow_flatten read).symm ▸ followed
  · obtain ⟨es, read⟩ := follow_reads followed
    rw [follow_of_read read, result_adapt, mapError_eq_ok,
      result_bind _ _ fun p => steady_finish .., applyEffects_untold, result_map] at followed
    obtain ⟨p, applied, finished⟩ := bind_eq_ok.1 followed
    obtain ⟨p', -, rfl⟩ := map_eq_ok.1 applied
    rw [TurnResult.entries, (finish_eq_ok finished).2.1]
    rfl

/-- A chapel whose bell opens the crypt. -/
def chapel : Scenario where
  version := 1
  id := "chapel"
  title := "The chapel"
  description := ""
  language := .en
  theme := none
  actions := [("ring", ⟨"Ring", "Bell", none⟩)]
  opening := ⟨"nave", [("rings", .number (.int 0))], []⟩
  tracks := []
  situations := [
    ("nave", {
      label := "Nave"
      description := none
      allowedActions := ["ring"]
      rules := [⟨⟨"ring", none, none, none⟩,
        [⟨[.action (.add "counters.rings,1")]⟩,
          ⟨[.action (.log "The bell rings."), .guard "counters.rings == 1"]⟩,
          ⟨[.action (.secret "The rope is cut."), .guard "counters.rings == 0"]⟩,
          ⟨[.action (.agreement "You will keep the hours.")]⟩,
          ⟨[.action (.set "next_situation,crypt")]⟩], none⟩]
      enterIf := none
      ending := false }),
    ("crypt", {
      label := "Crypt"
      description := none
      allowedActions := []
      rules := []
      enterIf := none
      ending := true })]
  hints := none

/-- The chapel when two entries are in the log. -/
def vespers : State :=
  { chapel.start none with
    log := [⟨7, .action, "You enter.", none, none⟩, ⟨3, .narrative, "It is dark.", none, none⟩] }

/-- A ring of the bell that is still written in a document. -/
def peal : Value :=
  .mapping [("add", .text "counters.rings,1")]

def toll : Effect :=
  ⟨[.action (.log "The bell tolls."), .guard "counters.rings == 1"]⟩

/-- A guard weighs what the effect before has changed, another one fails, and the crypt is entered.
-/
theorem consequences_agree_with_rules_chapel :
    ∃ situation r q, chapel.situation? vespers.situation = some situation ∧
      (situation.ruleFor "ring" none vespers).result = .ok (some (0, r)) ∧
      (vespers.act chapel Session.noon "ring" none true).result = .ok q ∧
      q.state.situation = "crypt" ∧
      q.entries vespers = [⟨8, .procedural, "The bell rings.", none, none⟩,
        ⟨9, .procedural, "You will keep the hours.", none, none⟩] ∧
      (vespers.follow chapel Session.noon [(r.effectsFor true).map .loaded]).result.map
        (fun q => (q.state, q.moved)) = .ok (q.state, true) ∧
      (∃ ran draft first, Runs vespers (r.effectsFor true) ran draft ∧
        IsFirstFree vespers.log first ∧
        q.entries vespers = (ran.filterMap Effect.line?).mapIdx fun k line =>
          ⟨first + k, .procedural, line, none, none⟩) ∧
      vespers.follow chapel Session.noon [[.document peal], [.loaded toll]] =
        vespers.follow chapel Session.noon [[.document peal, .loaded toll]] := by
  have rung : ∃ q, (vespers.act chapel Session.noon "ring" none true).result = .ok q ∧
      q.state.situation = "crypt" ∧ q.moved = true ∧
      q.entries vespers = [⟨8, .procedural, "The bell rings.", none, none⟩,
        ⟨9, .procedural, "You will keep the hours.", none, none⟩] := by
    refine ⟨?q, ?done, ?later⟩
    case done =>
      cbv
      rfl
    case later => exact ⟨rfl, rfl, rfl⟩
  obtain ⟨q, acted, crypt, moved, told⟩ := rung
  have read : readConsequences [.document peal, .loaded toll] =
      .ok [⟨[.action (.add "counters.rings,1")]⟩, toll] := by
    cbv
  obtain ⟨answered, joined⟩ := consequences_agree_with_rules chapel Session.noon vespers
  obtain ⟨agree, tells⟩ := answered _ "ring" none true 0 _ rfl rfl
  rw [acted] at agree
  refine ⟨_, _, q, rfl, rfl, acted, crypt, told, ?_, tells q acted,
    (joined [[.document peal], [.loaded toll]]).2.1 _ read⟩
  rw [agree, ← moved]
  rfl

end State
end Storyworld
