import Storyworld.Proofs.Condition.Escape
import Storyworld.Proofs.Turn.Settling

/-!
Which of the moves that are open to a player is made. The situations are asked in their order
whether they are entered on their own. The first one that does not decline has the say, and only if
all decline is the move made that was asked for.
-/

namespace Storyworld

open Noting

namespace Situation

/-- The answer of a situation that is asked whether it is entered. One without a condition has
none. -/
def Answers (situation : Situation) (s : State) (r : Except Fault Bool) : Prop :=
  ∃ c, situation.enterIf = some c ∧ c ≠ "" ∧ (s.holds c).result = r

def Declines (situation : Situation) (s : State) : Prop :=
  ∀ r, situation.Answers s r → r = .ok false

variable {situation : Situation} {s : State}

theorem declines_or_answers (situation : Situation) (s : State) :
    situation.Declines s ∨ ∃ r, situation.Answers s r ∧ r ≠ .ok false := by
  by_cases declines : situation.Declines s
  · exact .inl declines
  · simp only [Declines, not_forall] at declines
    obtain ⟨r, answers, other⟩ := declines
    exact .inr ⟨r, answers, other⟩

end Situation

/-- The answer of a situation of a list, where all those in front of it decline. -/
def Decides (situations : List (String × Situation)) (s : State) (id : String)
    (r : Except Fault Bool) : Prop :=
  ∃ before situation after, situations = before ++ (id, situation) :: after ∧
    (∀ e ∈ before, e.2.Declines s) ∧ situation.Answers s r

section

variable {situations rest : List (String × Situation)} {s : State} {id : String}
  {situation : Situation} {r : Except Fault Bool}

theorem Decides.later {first : String × Situation} (declines : first.2.Declines s)
    (h : Decides rest s id r) : Decides (first :: rest) s id r := by
  obtain ⟨before, situation, after, rfl, declined, answers⟩ := h
  refine ⟨first :: before, situation, after, rfl, ?_, answers⟩
  exact List.forall_mem_cons.2 ⟨declines, declined⟩

/-- Either all situations of a list decline, or one of them decides. -/
theorem decline_or_decides (situations : List (String × Situation)) (s : State) :
    (∀ e ∈ situations, e.2.Declines s) ∨ ∃ id r, Decides situations s id r ∧ r ≠ .ok false := by
  induction situations with
  | nil => exact .inl nofun
  | cons first rest ih =>
    obtain declines | ⟨r, answers, other⟩ := first.2.declines_or_answers s
    · obtain decline | ⟨id, r, decides, other⟩ := ih
      · exact .inl (List.forall_mem_cons.2 ⟨declines, decline⟩)
      · exact .inr ⟨id, r, decides.later declines, other⟩
    · exact .inr ⟨first.1, r, ⟨[], first.2, rest, rfl, nofun, answers⟩, other⟩

/-- A situation with a condition is asked, and the others only if it says no. -/
theorem firstEntered_asked {c : String} (written : situation.enterIf = some c) (full : c ≠ "") :
    (firstEntered ((id, situation) :: rest) s).result = ((s.holds c).result >>= fun enters =>
      if enters then .ok (some id) else (firstEntered rest s).result) := by
  simp only [firstEntered, written, if_neg full]
  rw [result_bind]
  · congr 1
    funext enters
    cases enters <;> rfl
  · intro enters
    split
    · exact steady_pure _
    · exact steady_firstEntered ..

theorem firstEntered_of_declines (declines : situation.Declines s) :
    (firstEntered ((id, situation) :: rest) s).result = (firstEntered rest s).result := by
  cases written : situation.enterIf with
  | none => simp only [firstEntered, written, pure_bind, Bool.false_eq_true, if_false]
  | some c =>
    by_cases empty : c = ""
    · simp only [firstEntered, written, empty, if_true, pure_bind, Bool.false_eq_true, if_false]
    · rw [firstEntered_asked written empty, declines _ ⟨c, written, empty, rfl⟩]
      rfl

theorem firstEntered_of_answers (answers : situation.Answers s r) (other : r ≠ .ok false) :
    (firstEntered ((id, situation) :: rest) s).result = r.map fun _ => some id := by
  obtain ⟨c, written, full, rfl⟩ := answers
  rw [firstEntered_asked written full]
  cases said : (s.holds c).result with
  | error f => rfl
  | ok enters =>
    cases enters with
    | true => rfl
    | false => exact absurd said other

theorem firstEntered_of_all_decline (decline : ∀ e ∈ situations, e.2.Declines s) :
    (firstEntered situations s).result = .ok none := by
  induction situations with
  | nil => rfl
  | cons first rest ih =>
    obtain ⟨here, later⟩ := List.forall_mem_cons.1 decline
    rw [firstEntered_of_declines here]
    exact ih later

/-- The scan ends with the situation that decides. -/
theorem firstEntered_of_decides (h : Decides situations s id r) (other : r ≠ .ok false) :
    (firstEntered situations s).result = r.map fun _ => some id := by
  obtain ⟨before, situation, after, rfl, decline, answers⟩ := h
  induction before with
  | nil => exact firstEntered_of_answers answers other
  | cons first before ih =>
    obtain ⟨here, later⟩ := List.forall_mem_cons.1 decline
    rw [List.cons_append, firstEntered_of_declines here]
    exact ih later

theorem firstEntered_eq_error {f : Fault} :
    (firstEntered situations s).result = .error f ↔ ∃ id, Decides situations s id (.error f) := by
  constructor
  · intro h
    obtain decline | ⟨id, r, decides, other⟩ := decline_or_decides situations s
    · rw [firstEntered_of_all_decline decline] at h
      cases h
    · rw [firstEntered_of_decides decides other, map_eq_error] at h
      exact ⟨id, h ▸ decides⟩
  · intro ⟨id, decides⟩
    exact firstEntered_of_decides decides nofun

theorem firstEntered_eq_some :
    (firstEntered situations s).result = .ok (some id) ↔ Decides situations s id (.ok true) := by
  constructor
  · intro h
    obtain decline | ⟨id', r, decides, other⟩ := decline_or_decides situations s
    · rw [firstEntered_of_all_decline decline] at h
      cases h
    · rw [firstEntered_of_decides decides other, map_eq_ok] at h
      obtain ⟨enters, rfl, same⟩ := h
      cases same
      cases enters with
      | true => exact decides
      | false => exact absurd rfl other
  · intro decides
    exact firstEntered_of_decides decides (by simp)

theorem firstEntered_eq_none :
    (firstEntered situations s).result = .ok none ↔ ∀ e ∈ situations, e.2.Declines s := by
  constructor
  · intro h
    obtain decline | ⟨id, r, decides, other⟩ := decline_or_decides situations s
    · exact decline
    · rw [firstEntered_of_decides decides other, map_eq_ok] at h
      obtain ⟨-, -, same⟩ := h
      cases same
  · exact firstEntered_of_all_decline

end

namespace State

/-- A move that was asked for and that can be made. -/
structure Awaits (sc : Scenario) (s : State) (id : String) : Prop where
  asked : s.nextSituation = some id
  named : id ≠ ""
  known : id ∈ sc.situations.map Prod.fst

/-- A situation is entered on its own, or none is and the move was asked for. -/
inductive Moves (sc : Scenario) (s : State) (id : String) : Prop where
  | entered (decides : Decides sc.situations s id (.ok true))
  | awaited (decline : ∀ e ∈ sc.situations, e.2.Declines s) (awaits : s.Awaits sc id)

structure Stays (sc : Scenario) (s : State) : Prop where
  decline : ∀ e ∈ sc.situations, e.2.Declines s
  idle : ∀ id, ¬ s.Awaits sc id

variable {sc : Scenario} {s : State} {id : String}

theorem pending?_eq_some : s.pending? sc = some id ↔ s.Awaits sc id := by
  constructor
  · intro h
    unfold pending? at h
    split at h
    · rename_i asked
      split at h
      · rename_i possible
        cases h
        exact ⟨asked, possible.1, lookupLast_isSome.1 possible.2⟩
      · cases h
    · cases h
  · rintro ⟨asked, named, known⟩
    have known : (sc.situation? id).isSome := lookupLast_isSome.2 known
    simp [pending?, asked, named, known]

theorem moves_or_stays (sc : Scenario) (s : State) :
    (∃ id, s.Moves sc id) ∨ s.Stays sc ∨ ∃ id f, Decides sc.situations s id (.error f) := by
  obtain decline | ⟨id, r, decides, other⟩ := decline_or_decides sc.situations s
  · by_cases awaits : ∃ id, s.Awaits sc id
    · obtain ⟨id, awaits⟩ := awaits
      exact .inl ⟨id, .awaited decline awaits⟩
    · exact .inr (.inl ⟨decline, not_exists.1 awaits⟩)
  · cases r with
    | error f => exact .inr (.inr ⟨id, f, decides⟩)
    | ok enters =>
      cases enters with
      | true => exact .inl ⟨id, .entered decides⟩
      | false => exact absurd rfl other

theorem resolve_of_moves (moves : s.Moves sc id) (now : Timestamp) :
    (s.resolve sc now).result = .ok ((s.moveTo id).recordEnding sc now, true) := by
  cases moves with
  | entered decides => rw [resolve_of_entered (firstEntered_eq_some.2 decides), Option.some_or]
  | awaited decline awaits =>
    rw [resolve_of_entered (firstEntered_eq_none.2 decline), Option.none_or,
      pending?_eq_some.2 awaits]

theorem resolve_of_stays (stays : s.Stays sc) (now : Timestamp) :
    (s.resolve sc now).result = .ok (s, false) := by
  have idle : s.pending? sc = none :=
    Option.eq_none_iff_forall_ne_some.2 fun id asked => stays.idle id (pending?_eq_some.1 asked)
  rw [resolve_of_entered (firstEntered_eq_none.2 stays.decline), Option.none_or, idle]

theorem resolve_of_error {f : Fault} (decides : Decides sc.situations s id (.error f))
    (now : Timestamp) : (s.resolve sc now).result = .error f := by
  have stopped : (sc.autoEntered s).result = .error f := firstEntered_eq_error.2 ⟨id, decides⟩
  rw [resolve, result_bind, stopped]
  · rfl
  · intro entered
    split
    · exact steady_pure _
    · split <;> exact steady_pure _

/-- A move changes the place, takes back what was asked for, and adds the record of an ending to a
history that has none of the scenario. -/
theorem arrival_eq (sc : Scenario) (now : Timestamp) (s : State) (id : String) :
    ∃ records, (s.moveTo id).recordEnding sc now =
        { s with
          situation := id
          nextSituation := none
          player := { s.player with history := s.player.history ++ records } } ∧
      ((records = [] ∧ ¬ (sc.isEnding id = true ∧ ∀ c ∈ s.player.history, c.scenarioId ≠ sc.id)) ∨
        ∃ c, records = [c] ∧ c.scenarioId = sc.id ∧ c.endingId = id ∧
          sc.isEnding id = true ∧ ∀ c ∈ s.player.history, c.scenarioId ≠ sc.id) := by
  have completed : (s.moveTo id).hasCompleted sc.id = true ↔
      ∃ c ∈ s.player.history, c.scenarioId = sc.id := hasCompleted_iff
  obtain ⟨same, due⟩ | ⟨situation, here, ends, first, recorded⟩ :=
    recordEnding_cases sc now (s.moveTo id)
  · refine ⟨[], ?_, .inl ⟨rfl, fun ⟨ending, unrecorded⟩ => ?_⟩⟩
    · rw [same, List.append_nil]
      rfl
    · obtain ⟨c, mem, written⟩ := completed.1 (due ending)
      exact unrecorded c mem written
  · refine ⟨[_], recorded, .inr ⟨_, rfl, rfl, rfl, isEnding_iff.2 ⟨situation, here, ends⟩, ?_⟩⟩
    intro c mem written
    cases first.symm.trans (completed.2 ⟨c, mem, written⟩)

/-- The end of a turn. If the first situation that does not decline is entered, the player moves
there; if its condition ends with a fault, so does the turn. If all situations decline, the player
moves to where it was asked for, provided there is such a place, and else nothing changes. A move
changes the place, takes back what was asked for, and adds one record to the history exactly if it
comes to an ending and the scenario has no record yet. -/
theorem resolve_follows_priority (sc : Scenario) (now : Timestamp) (s : State) :
    (∀ f, (s.resolve sc now).result = .error f ↔
        ∃ id, Decides sc.situations s id (.error f)) ∧
      (∀ t, (s.resolve sc now).result = .ok (t, true) ↔
        ∃ id, s.Moves sc id ∧ t = (s.moveTo id).recordEnding sc now) ∧
      (∀ t, (s.resolve sc now).result = .ok (t, false) ↔ s.Stays sc ∧ t = s) ∧
      ∀ id, ∃ records, (s.moveTo id).recordEnding sc now =
          { s with
            situation := id
            nextSituation := none
            player := { s.player with history := s.player.history ++ records } } ∧
        ((records = [] ∧
            ¬ (sc.isEnding id = true ∧ ∀ c ∈ s.player.history, c.scenarioId ≠ sc.id)) ∨
          ∃ c, records = [c] ∧ c.scenarioId = sc.id ∧ c.endingId = id ∧
            sc.isEnding id = true ∧ ∀ c ∈ s.player.history, c.scenarioId ≠ sc.id) := by
  have error {id f} (stops : Decides sc.situations s id (.error f)) := resolve_of_error stops now
  have moved {id} (moves : s.Moves sc id) := resolve_of_moves moves now
  have stayed (stays : s.Stays sc) := resolve_of_stays stays now
  refine ⟨fun f => ⟨fun h => ?_, fun ⟨id, decides⟩ => error decides⟩,
    fun t => ⟨fun h => ?_, fun ⟨id, moves, same⟩ => same ▸ moved moves⟩,
    fun t => ⟨fun h => ?_, fun ⟨stays, same⟩ => same ▸ stayed stays⟩,
    fun id => arrival_eq sc now s id⟩
  all_goals obtain ⟨id, moves⟩ | stays | ⟨id, f', decides⟩ := moves_or_stays sc s
  · cases h.symm.trans (moved moves)
  · cases h.symm.trans (stayed stays)
  · cases h.symm.trans (error decides)
    exact ⟨id, decides⟩
  · cases h.symm.trans (moved moves)
    exact ⟨id, moves, rfl⟩
  · cases h.symm.trans (stayed stays)
  · cases h.symm.trans (error decides)
  · cases h.symm.trans (moved moves)
  · cases h.symm.trans (stayed stays)
    exact ⟨stays, rfl⟩
  · cases h.symm.trans (error decides)

end State

/-- A shore with a tide that cannot be reckoned and a hill that is always open. -/
def tideland : Scenario where
  version := 1
  id := "tideland"
  title := "The tideland"
  description := ""
  language := .en
  theme := none
  actions := []
  opening := ⟨"shore", [], []⟩
  tracks := []
  situations := [("shore", ⟨"Shore", none, [], [], none, false⟩),
    ("tide", ⟨"Tide", none, [], [], some "counters.x % 2 == 0", false⟩),
    ("hill", ⟨"Hill", none, [], [], some "true", false⟩)]
  hints := none

/-- The hill is the only situation to be entered, but the tide stops the turn. -/
theorem resolve_tideland :
    (∃ hill, ("hill", hill) ∈ tideland.situations ∧ hill.Answers State.boundless (.ok true)) ∧
      (∀ e ∈ tideland.situations, e.2.Answers State.boundless (.ok true) → e.1 = "hill") ∧
      (State.boundless.resolve tideland Session.noon).result = .error .remainderUndefined := by
  have tide : (State.boundless.holds "counters.x % 2 == 0").result =
      .error .remainderUndefined := by
    decide +kernel
  have hill : (State.boundless.holds "true").result = .ok true := by
    decide +kernel
  refine ⟨⟨⟨"Hill", none, [], [], some "true", false⟩, by simp [tideland], "true", rfl, by decide,
    hill⟩, ?_, ?_⟩
  · intro e mem answers
    obtain ⟨c, written, -, entered⟩ := answers
    simp only [tideland, List.mem_cons, List.not_mem_nil, or_false] at mem
    obtain rfl | rfl | rfl := mem
    · cases written
    · cases written
      cases tide.symm.trans entered
    · rfl
  · have shore (e) (mem : e ∈ tideland.situations.take 1) : e.2.Declines State.boundless := by
      intro r answers
      obtain rfl := List.mem_singleton.1 mem
      obtain ⟨c, written, -⟩ := answers
      cases written
    have decides : Decides tideland.situations State.boundless "tide"
        (.error .remainderUndefined) :=
      ⟨_, _, _, rfl, shore, _, rfl, by decide, tide⟩
    exact State.resolve_of_error decides _

end Storyworld
