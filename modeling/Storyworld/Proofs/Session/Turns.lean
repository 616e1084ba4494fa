import Storyworld.Proofs.Session.Run

/-!
What a turn of a session does. It plays its move on the state, keeps the state from before for an
undo, and then only the log and the narrator change.
-/

namespace Storyworld

open Noting

theorem State.noteLines_eq (lines : List String) (s : State) :
    ∃ log, (s.noteLines lines).1 = { s with log := log } := by
  induction lines generalizing s with
  | nil => exact ⟨s.log, rfl⟩
  | cons line rest ih => exact ih (s.note .procedural line none).1

theorem State.noteLines_messages (lines : List String) (s : State) :
    (s.noteLines lines).2.map LogEntry.message = lines := by
  induction lines generalizing s with
  | nil => rfl
  | cons line rest ih => exact congrArg (line :: ·) (ih _)

/-- The changes that a move has made can be told in the log. Those of consequences are not told. -/
def Move.Told (sc : Scenario) (before after : State) : Move → Prop
  | action .. => ∃ cs, changesBetween sc before after = .ok cs
  | consequences _ => True

namespace Session

/-- What a turn makes of a session: the state is the one that the rules give, but for the log. -/
structure Took (g : Session) (r : TurnResult) (p : Session × Turn) : Prop where
  state : ∃ log, p.1.state = { r.state with log := log }
  past : p.1.past = g.keep g.state
  scenario : p.1.scenario = g.scenario
  limit : p.1.limit = g.limit
  answer : answerOf p.2 = .turn r.moved r.lines

theorem mem_keep {g : Session} {s before : State} (mem : s ∈ g.keep before) :
    s = before ∨ s ∈ g.past := by
  unfold keep at mem
  split at mem
  · exact List.mem_cons.1 (List.mem_of_mem_take mem)
  · exact List.mem_cons.1 mem

theorem noteAction_eq_ok {g : Session} {message : String} {s : State} {q : State × LogEntry}
    (h : g.noteAction message s = .ok q) :
    (∃ cs, changesBetween g.scenario g.state s = .ok cs) ∧ ∃ log, q.1 = { s with log := log } := by
  obtain ⟨cs, hcs, hq⟩ := bind_eq_ok.1 h
  cases hq
  exact ⟨⟨cs, hcs⟩, _, rfl⟩

/-- The entry of an action, if there is one, comes before the lines of the story. -/
theorem commit_eq_bind (g : Session) (message : Option String) (r : TurnResult) :
    g.commit message r =
      (match message with
        | some m => (g.noteAction m r.state).map fun q => (q.1, [q.2])
        | none => .ok (r.state, [])) >>= fun q =>
      .ok ({ g with state := (q.1.noteLines r.lines).1, past := g.keep g.state },
        ⟨q.2 ++ (q.1.noteLines r.lines).2, (q.1.noteLines r.lines).2, none, r.moved⟩) := by
  cases message <;> rfl

theorem commit_took {g : Session} {message : Option String} {r : TurnResult}
    {p : Session × Turn} (h : g.commit message r = .ok p) :
    (message.isSome → ∃ cs, changesBetween g.scenario g.state r.state = .ok cs) ∧ Took g r p := by
  rw [commit_eq_bind] at h
  obtain ⟨q, hq, hp⟩ := bind_eq_ok.1 h
  cases hp
  have logged : (message.isSome → ∃ cs, changesBetween g.scenario g.state r.state = .ok cs) ∧
      ∃ log, q.1 = { r.state with log := log } := by
    cases message with
    | none =>
      cases hq
      exact ⟨nofun, _, rfl⟩
    | some m =>
      obtain ⟨a, ha, rfl⟩ := map_eq_ok.1 hq
      exact ⟨fun _ => (noteAction_eq_ok ha).1, (noteAction_eq_ok ha).2⟩
  obtain ⟨told, log, hlog⟩ := logged
  obtain ⟨later, hlater⟩ := q.1.noteLines_eq r.lines
  refine ⟨told, ⟨later, ?_⟩, rfl, rfl, rfl, ?_⟩
  · rw [hlater, hlog]
  · simp only [answerOf, State.noteLines_messages]

theorem commit_isOk {g : Session} {message : Option String} {r : TurnResult}
    (h : message.isSome → ∃ cs, changesBetween g.scenario g.state r.state = .ok cs) :
    ∃ p, g.commit message r = .ok p := by
  cases message with
  | none => exact ⟨_, rfl⟩
  | some m =>
    obtain ⟨cs, hcs⟩ := h rfl
    simp only [commit, noteAction, hcs]
    exact ⟨_, rfl⟩

theorem Took.addNarrative {g h : Session} {r : TurnResult} {t : Turn} (took : Took g r (h, t))
    (kind : LogKind) (message : String) : Took g r (h.addNarrative t kind message) := by
  obtain ⟨log, (hlog : h.state = _)⟩ := took.state
  have noted : (h.addNarrative t kind message).1.state =
      { h.state with log := (h.state.note kind message none).1.log } := rfl
  exact ⟨⟨_, noted.trans (by rw [hlog])⟩, took.past, took.scenario, took.limit, took.answer⟩

/-- A narrator never stops a turn, and what it tells is only in the log. -/
theorem Took.narrate {g h : Session} {r : TurnResult} {t : Turn} (took : Took g r (h, t))
    (actionId : String) (request : Narration.Request) :
    ∃ p, (h.narrate actionId request t).result = .ok p ∧ Took g r p := by
  unfold Session.narrate
  split
  · exact ⟨_, rfl, took⟩
  · rename_i n _
    have asked : Took g r ({ h with narrator := some (n.narrate request).1 }, t) :=
      ⟨took.state, took.past, took.scenario, took.limit, took.answer⟩
    dsimp only
    split
    · exact ⟨_, rfl, asked⟩
    · exact ⟨_, rfl, asked.addNarrative _ _⟩
    · exact ⟨_, rfl, asked.addNarrative _ _⟩

/-- An action is played by the rules, its result is taken over, and then the narrator tells it. -/
theorem act_eq_ok {g : Session} {id : String} {target : Option String} {success : Bool}
    {p : Session × Turn} :
    (g.act id target success).result = .ok p ↔
      ∃ r q, ((Move.action id target success).play g.scenario g.now g.state).result = .ok r ∧
        g.commit (some (actionMessage g.scenario id target)) r = .ok q ∧
        (q.1.narrate id (.ofTurn g.scenario g.state r id target) q.2).result = .ok p := by
  simp only [act, result_bind _ _ fun _ => (steady_ofExcept _).bind fun _ => steady_narrate ..,
    result_bind _ _ fun _ => steady_narrate .., result_ofExcept, bind_eq_ok, mapError_eq_ok]
  constructor
  · rintro ⟨r, played, q, committed, told⟩
    exact ⟨r, q, played, committed, told⟩
  · rintro ⟨r, q, played, committed, told⟩
    exact ⟨r, played, q, committed, told⟩

/-- A turn that is taken is the move as the rules have it. -/
theorem take_eq_ok {g : Session} {m : Move} {p : Session × Turn} (h : (g.take m).result = .ok p) :
    ∃ r, (m.play g.scenario g.now g.state).result = .ok r ∧
      m.Told g.scenario g.state r.state ∧ Took g r p := by
  cases m with
  | action id target success =>
    obtain ⟨r, q, hr, hq, h⟩ := act_eq_ok.1 h
    obtain ⟨told, took⟩ := commit_took hq
    obtain ⟨p', hp', took'⟩ := took.narrate id (.ofTurn g.scenario g.state r id target)
    cases hp'.symm.trans h
    exact ⟨r, hr, told rfl, took'⟩
  | consequences lists =>
    simp only [take, applyConsequences, result_bind _ _ fun _ => steady_ofExcept _,
      result_ofExcept] at h
    obtain ⟨r, hr, h⟩ := bind_eq_ok.1 h
    exact ⟨r, hr, trivial, (commit_took (mapError_eq_ok.1 h)).2⟩

/-- A move that the rules play and whose changes can be told is a turn, whoever narrates. -/
theorem take_isOk {g : Session} {m : Move} {r : TurnResult}
    (hr : (m.play g.scenario g.now g.state).result = .ok r)
    (told : m.Told g.scenario g.state r.state) : ∃ p, (g.take m).result = .ok p := by
  cases m with
  | action id target success =>
    obtain ⟨q, hq⟩ := @commit_isOk g (some (actionMessage g.scenario id target)) r fun _ => told
    obtain ⟨p, hp, -⟩ := (commit_took hq).2.narrate id
      (.ofTurn g.scenario g.state r id target)
    exact ⟨p, act_eq_ok.2 ⟨r, q, hr, hq, hp⟩⟩
  | consequences lists =>
    obtain ⟨q, hq⟩ := @commit_isOk g none r nofun
    refine ⟨q, ?_⟩
    simp only [take, applyConsequences, result_bind _ _ fun _ => steady_ofExcept _,
      result_ofExcept]
    exact bind_eq_ok.2 ⟨r, hr, mapError_eq_ok.2 hq⟩

end Session

end Storyworld
