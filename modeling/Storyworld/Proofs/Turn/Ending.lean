import Storyworld.Proofs.Turn.Course
import Storyworld.State.Start

/-!
Endings are recorded once and never missed. Only the move at the end of a turn can add to the
history, and it adds a record if and only if it enters an ending of a scenario that has none yet.
-/

namespace Storyworld

open Noting

/-- What a turn adds to the history of the player. -/
def Played.added (p : Played) : List Completion :=
  p.result.state.player.history.drop p.before.player.history.length

/-- A record of the ending that a turn has moved to. -/
structure Completion.Records (sc : Scenario) (r : TurnResult) (c : Completion) : Prop where
  scenario : c.scenarioId = sc.id
  moved : r.moved = true
  here : c.endingId = r.state.situation
  ending : ∃ situation, sc.situation? c.endingId = some situation ∧ situation.ending = true ∧
    c.endingLabel = situation.label

namespace State

theorem hasCompleted_iff {s : State} {id : String} :
    s.hasCompleted id = true ↔ ∃ c ∈ s.player.history, c.scenarioId = id := by
  simp [hasCompleted]

theorem hasCompleted_append {s t : State} {id : String} {cs : List Completion}
    (h : t.player.history = s.player.history ++ cs) (before : s.hasCompleted id = true) :
    t.hasCompleted id = true := by
  obtain ⟨c, mem, same⟩ := hasCompleted_iff.1 before
  exact hasCompleted_iff.2 ⟨c, by simp [h, mem], same⟩

theorem isEnding_iff {sc : Scenario} {id : String} :
    sc.isEnding id = true ↔
      ∃ situation, sc.situation? id = some situation ∧ situation.ending = true := by
  unfold Scenario.isEnding
  cases sc.situation? id <;> simp

/-- An ending without a record gets one; nothing else is recorded. -/
theorem recordEnding_cases (sc : Scenario) (now : Timestamp) (s : State) :
    (s.recordEnding sc now = s ∧
        (sc.isEnding s.situation = true → s.hasCompleted sc.id = true)) ∨
      ∃ situation, sc.situation? s.situation = some situation ∧ situation.ending = true ∧
        s.hasCompleted sc.id = false ∧
        s.recordEnding sc now = s.addCompletion (s.completion sc situation now) := by
  unfold recordEnding
  split
  · rename_i situation here
    split
    · rename_i due
      rw [Bool.and_eq_true, Bool.not_eq_true'] at due
      exact .inr ⟨situation, here, due.1, due.2, rfl⟩
    · rename_i due
      refine .inl ⟨rfl, fun ending => ?_⟩
      obtain ⟨situation', here', ends⟩ := isEnding_iff.1 ending
      cases here.symm.trans here'
      simpa [ends] using due
  · rename_i here
    refine .inl ⟨rfl, fun ending => ?_⟩
    obtain ⟨situation, known, -⟩ := isEnding_iff.1 ending
    cases here.symm.trans known

end State

/-- A turn leaves the history as it is, or it moves to an ending and adds the record of that to a
history that has none for the scenario. It comes to no other ending. -/
theorem Move.play_history {sc : Scenario} {now : Timestamp} {s : State} {m : Move}
    {r : TurnResult} (played : (m.play sc now s).result = .ok r) :
    (r.state.player.history = s.player.history ∧
        (sc.isEnding r.state.situation = true →
          r.state.situation = s.situation ∨ s.hasCompleted sc.id = true)) ∨
      ∃ c, s.hasCompleted sc.id = false ∧
        r.state.player.history = s.player.history ++ [c] ∧ c.Records sc r := by
  obtain ⟨-, rfl⟩ | ⟨draft, altered, resolved⟩ := play_eq_ok played
  · exact .inl ⟨rfl, fun _ => .inl rfl⟩
  · have place : draft.situation = s.situation := altered.same State.Alters.situation
    have history : draft.player.history = s.player.history := altered.same State.Alters.history
    obtain ⟨stayed, -⟩ | ⟨id, -, entered, moved⟩ := State.resolve_eq_ok resolved
    · rw [stayed]
      exact .inl ⟨history, fun _ => .inl place⟩
    · have completed : (draft.moveTo id).hasCompleted sc.id = s.hasCompleted sc.id := by
        unfold State.hasCompleted State.moveTo
        rw [history]
      obtain ⟨same, due⟩ | ⟨situation, here, ends, first, recorded⟩ :=
        State.recordEnding_cases sc now (draft.moveTo id)
      · rw [entered, same]
        exact .inl ⟨history, fun ending => .inr (completed ▸ due ending)⟩
      · rw [recorded] at entered
        refine .inr ⟨(draft.moveTo id).completion sc situation now, completed ▸ first, ?_,
          ⟨rfl, moved, ?_, situation, here, ends, rfl⟩⟩
        · rw [entered, ← history]
          rfl
        · rw [entered]
          rfl

namespace Course

variable {sc : Scenario} {s t : State} {turns : List Played}

theorem added_eq {p : Played} {cs : List Completion}
    (h : p.result.state.player.history = p.before.player.history ++ cs) : p.added = cs := by
  rw [Played.added, h, List.drop_left]

/-- What a turn adds is nothing, or one record to a history that has none. -/
theorem added_cases {p : Played} (played : (p.move.play sc p.now p.before).result = .ok p.result) :
    p.result.state.player.history = p.before.player.history ++ p.added ∧
      (p.added = [] ∨
        ∃ c, p.added = [c] ∧ p.before.hasCompleted sc.id = false ∧ c.Records sc p.result) := by
  obtain ⟨same, -⟩ | ⟨c, first, longer, records⟩ := Move.play_history played
  · have none : p.added = [] := added_eq (by rw [same, List.append_nil])
    exact ⟨by rw [none, same, List.append_nil], .inl none⟩
  · have one : p.added = [c] := added_eq longer
    exact ⟨by rw [one, longer], .inr ⟨c, one, first, records⟩⟩

theorem history_eq (course : Course sc s turns t) :
    t.player.history = s.player.history ++ turns.flatMap Played.added := by
  induction course with
  | nil => simp
  | @cons s t now m r later played _ ih =>
    have first := (added_cases (p := ⟨s, now, m, r⟩) played).1
    rw [ih, List.flatMap_cons, ← List.append_assoc, ← first]

theorem added_of_completed (course : Course sc s turns t) (before : s.hasCompleted sc.id = true) :
    turns.flatMap Played.added = [] := by
  induction course with
  | nil => rfl
  | @cons s t now m r later played _ ih =>
    obtain ⟨longer, none | ⟨c, -, first, -⟩⟩ := added_cases (p := ⟨s, now, m, r⟩) played
    · rw [List.flatMap_cons, none, List.nil_append]
      exact ih (State.hasCompleted_append longer before)
    · cases before.symm.trans first

theorem added_length (course : Course sc s turns t) : (turns.flatMap Played.added).length ≤ 1 := by
  induction course with
  | nil => simp
  | @cons s t now m r later played rest ih =>
    obtain ⟨longer, none | ⟨c, one, -, records⟩⟩ := added_cases (p := ⟨s, now, m, r⟩) played
    · rw [List.flatMap_cons, none, List.nil_append]
      exact ih
    · have recorded : r.state.player.history = s.player.history ++ [c] := one ▸ longer
      have completed : r.state.hasCompleted sc.id = true :=
        State.hasCompleted_iff.2 ⟨c, by simp [recorded], records.scenario⟩
      rw [List.flatMap_cons, one, rest.added_of_completed completed]
      simp

/-- In an ending the history has a record of the scenario, if this was so at the start. -/
theorem completed_of_ending (course : Course sc s turns t)
    (start : sc.isEnding s.situation = true → s.hasCompleted sc.id = true) :
    sc.isEnding t.situation = true → t.hasCompleted sc.id = true := by
  refine course.keeps (P := fun u => sc.isEnding u.situation = true →
    u.hasCompleted sc.id = true) (fun p _ played before ending => ?_) start
  obtain ⟨same, arrived⟩ | ⟨c, -, longer, records⟩ := Move.play_history played
  · have completed : p.before.hasCompleted sc.id = true := by
      obtain place | done := arrived ending
      · exact before (place ▸ ending)
      · exact done
    exact State.hasCompleted_append (by rw [same, List.append_nil]) completed
  · exact State.hasCompleted_iff.2 ⟨c, by simp [longer], records.scenario⟩

end Course

theorem Player.equip_history (p : Player) (items : List Item) :
    (p.equip items).history = p.history := by
  unfold equip
  induction items generalizing p with
  | nil => rfl
  | cons item rest ih =>
    rw [List.foldl_cons, ih]
    unfold give
    split <;> rfl

/-- In every course of turns from the start of a scenario that does not start in an ending: in an
ending the history has a record of the scenario; the history only grows, by one record at most, and
by none if there was one before; and a turn adds a record only of the ending that it moves to. -/
theorem endings_recorded_once {sc : Scenario} {player : Option Player} {turns : List Played}
    {t : State} (opening : sc.isEnding sc.opening.situation = false)
    (course : Course sc (sc.start player) turns t) :
    (sc.isEnding t.situation = true → ∃ c ∈ t.player.history, c.scenarioId = sc.id) ∧
      t.player.history =
        (player.getD (.newcomer sc.language)).history ++ turns.flatMap Played.added ∧
      (turns.flatMap Played.added).length ≤ 1 ∧
      ((∃ c ∈ (player.getD (.newcomer sc.language)).history, c.scenarioId = sc.id) →
        turns.flatMap Played.added = []) ∧
      ∀ p ∈ turns, p.result.state.player.history = p.before.player.history ++ p.added ∧
        ∀ c ∈ p.added, c.Records sc p.result := by
  have start : (sc.start player).player.history =
      (player.getD (.newcomer sc.language)).history := Player.equip_history _ _
  have outside : sc.isEnding (sc.start player).situation = false := opening
  refine ⟨fun ending => ?_, ?_, course.added_length, fun done => ?_, fun p mem => ?_⟩
  · refine State.hasCompleted_iff.1 (course.completed_of_ending (fun begins => ?_) ending)
    cases outside.symm.trans begins
  · rw [course.history_eq, start]
  · exact course.added_of_completed (State.hasCompleted_iff.2 (start ▸ done))
  · obtain ⟨longer, none | ⟨c, one, -, records⟩⟩ := Course.added_cases (course.played_of_mem mem)
    · exact ⟨longer, by simp [none]⟩
    · exact ⟨longer, by simpa [one] using records⟩

/-- A voyage that ends at an island, from which the player can come home. -/
def voyage : Scenario where
  version := 1
  id := "voyage"
  title := "The voyage"
  description := ""
  language := .en
  theme := none
  actions := [("sail", ⟨"Sail", "Ship", none⟩)]
  opening := ⟨"harbour", [], []⟩
  tracks := []
  situations := [
    ("harbour", {
      label := "Harbour"
      description := none
      allowedActions := ["sail"]
      rules := [⟨⟨"sail", none, none, none⟩, [⟨[.action (.set "next_situation,island")]⟩], none⟩]
      enterIf := none
      ending := false }),
    ("island", {
      label := "Island"
      description := none
      allowedActions := ["sail"]
      rules := [⟨⟨"sail", none, none, none⟩, [⟨[.action (.set "next_situation,harbour")]⟩], none⟩]
      enterIf := none
      ending := true })]
  hints := none

/-- A player who has played another scenario to its end. -/
def sailor : Player :=
  { Player.newcomer .en with
    history := [⟨"well", "The well", "2026-01-01", "yard", "Yard", [], .initial⟩] }

/-- The sailor goes to the island, home, and to the island again. -/
theorem endings_recorded_once_voyage :
    ∃ turns t, voyage.isEnding voyage.opening.situation = false ∧
      Course voyage (voyage.start (some sailor)) turns t ∧
      turns.map (fun p => p.result.state.situation) = ["island", "harbour", "island"] ∧
      voyage.isEnding t.situation = true ∧ (∃ c ∈ t.player.history, c.scenarioId = "voyage") ∧
      t.player.history = sailor.history ++ turns.flatMap Played.added ∧
      (turns.flatMap Played.added).map Completion.endingId = ["island"] ∧
      ∀ p ∈ turns, ∀ c ∈ p.added, c.Records voyage p.result := by
  have opening : voyage.isEnding voyage.opening.situation = false := by decide
  have sailed : ∃ turns t, Course voyage (voyage.start (some sailor)) turns t ∧
      turns.map (fun p => p.result.state.situation) = ["island", "harbour", "island"] ∧
      voyage.isEnding t.situation = true ∧
      (turns.flatMap Played.added).map Completion.endingId = ["island"] := by
    let sail (before : State) (r : TurnResult) : Played :=
      ⟨before, Session.noon, .action "sail" none true, r⟩
    exact ⟨[sail _ _, sail _ _, sail _ _], _, .cons rfl (.cons rfl (.cons rfl (.nil _))),
      rfl, rfl, rfl⟩
  obtain ⟨turns, t, course, places, ending, added⟩ := sailed
  obtain ⟨recorded, history, -, -, records⟩ := endings_recorded_once opening course
  exact ⟨turns, t, opening, course, places, ending, recorded ending, history, added,
    fun p mem => (records p mem).2⟩

end Storyworld
