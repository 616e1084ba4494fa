import Storyworld.Proofs.Session.Turns

/-!
A session and the rules alone. Whatever is undone, told or described in between, the state of a
session is, but for its log and its scene texts, what the rules make of the turns that stand. So
narrators, logs and scene texts have no say in the play.
-/

namespace Storyworld

open Noting

/-- The rules alone, on a state without records. -/
theorem Move.play_bare (sc : Scenario) (now : Timestamp) (s : State) (m : Move) :
    (m.play sc now s.bare).result =
      (m.play sc now s).result.map (TurnResult.withRecords [] []) := by
  cases m with
  | action id target success =>
    rw [play, State.bare, State.act_withRecords, adapt_map, result_map]
    rfl
  | consequences lists =>
    rw [play, State.bare, State.applyConsequences_withRecords, adapt_map, result_map]
    rfl

namespace Session

/-- Plays turns with the rules alone, from the last of the list to its first. -/
def replay (sc : Scenario) (start : State) : List Taken → Noting Mishap State
  | [] => pure start
  | t :: earlier => do
    let s ← replay sc start earlier
    let r ← t.move.play sc t.now s
    return r.state

theorem replay_cons {sc : Scenario} {start s : State} {t : Taken} {earlier : List Taken}
    {r : TurnResult} (hs : (replay sc start earlier).result = .ok s.bare)
    (hr : (t.move.play sc t.now s).result = .ok r) :
    (replay sc start (t :: earlier)).result = .ok r.state.bare := by
  have steady (s : State) : Steady (t.move.play sc t.now s >>= fun r => pure r.state) :=
    (Move.steady_play ..).bind fun _ => steady_pure _
  rw [replay, result_bind _ _ steady, hs]
  change (t.move.play sc t.now s.bare >>= _).result = _
  rw [result_bind _ _ fun _ => steady_pure _, Move.play_bare, hr]
  rfl

/-- The rules alone account for a session: for its state by the turns that stand, and for each of
the kept states by the turns that stood when it was kept. -/
structure Backed (sc : Scenario) (start : State) (ts : List Taken) (g : Session) : Prop where
  scenario : g.scenario = sc
  present : (replay sc start ts).result = .ok g.state.bare
  earlier : ∀ k p, g.past[k]? = some p →
    (replay sc start (ts.drop (k + 1))).result = .ok p.bare

theorem keep_getElem? {g : Session} {s p : State} {k : Nat} (h : (g.keep s)[k]? = some p) :
    (s :: g.past)[k]? = some p := by
  unfold keep at h
  split at h
  · rw [List.getElem?_take] at h
    split at h
    · exact h
    · nomatch h
  · exact h

theorem Backed.move {sc : Scenario} {start : State} {ts : List Taken} {g h : Session} {m : Move}
    {a : Answer} (backed : Backed sc start ts g)
    (done : (g.perform (.move m)).result = .ok (h, a)) :
    Backed sc start (⟨g.state, g.now, m⟩ :: ts) h := by
  obtain ⟨t, ht, -⟩ := perform_move_eq_ok.1 done
  obtain ⟨r, hr, -, took⟩ := take_eq_ok ht
  rw [backed.scenario] at hr
  obtain ⟨log, hlog⟩ := took.state
  refine ⟨took.scenario.trans backed.scenario, ?_, ?_⟩
  · rw [replay_cons backed.present hr, hlog]
    rfl
  · intro k q hq
    rw [took.past] at hq
    cases k with
    | zero =>
      cases keep_getElem? hq
      exact backed.present
    | succ k => exact backed.earlier k q (keep_getElem? hq)

theorem Backed.undo {sc : Scenario} {start : State} {ts : List Taken} {g : Session}
    (backed : Backed sc start ts g) :
    Backed sc start (if g.undo.2 then ts.tail else ts) g.undo.1 := by
  unfold Session.undo
  split
  · exact backed
  · rename_i p rest hpast
    refine ⟨backed.scenario, ?_, fun k q hq => ?_⟩
    · simpa using backed.earlier 0 p (by simp [hpast])
    · simpa [Nat.add_comm] using backed.earlier (k + 1) q (by simpa [hpast] using hq)

theorem Backed.perform {sc : Scenario} {start : State} {ts : List Taken} {g h : Session}
    {op : Operation} {a : Answer} (backed : Backed sc start ts g)
    (done : (g.perform op).result = .ok (h, a)) :
    Backed sc start (stand ts ⟨g.state, g.now, op, a⟩) h := by
  cases op with
  | move m => exact backed.move done
  | undo =>
    cases done
    have undone := backed.undo
    cases hw : g.undo.2 <;> simpa [stand, hw] using undone
  | describe situation text =>
    cases done
    exact ⟨backed.scenario, backed.present, backed.earlier⟩

theorem Backed.run {sc : Scenario} {start : State} {ops : List (Timestamp × Operation)}
    {ts : List Taken} {g h : Session} {steps : List Step} (backed : Backed sc start ts g)
    (ran : (g.run ops).result = .ok (h, steps)) :
    Backed sc start (steps.foldl stand ts) h := by
  induction ops generalizing ts g steps with
  | nil =>
    cases ran
    exact backed
  | cons e rest ih =>
    obtain ⟨now, op⟩ := e
    obtain ⟨g', a, more, hp, hq, rfl⟩ := run_cons_eq_ok.1 ran
    have timed : Backed sc start ts { g with now := now } :=
      ⟨backed.scenario, backed.present, backed.earlier⟩
    have later := ih (timed.perform hp) hq
    exact later

/-- What backs a session backs every step on the way. -/
theorem Backed.within {sc : Scenario} {start : State} {ops : List (Timestamp × Operation)}
    {ts : List Taken} {g h : Session} {done later : List Step} {e : Step}
    (backed : Backed sc start ts g) (ran : (g.run ops).result = .ok (h, done ++ e :: later)) :
    (replay sc start (done.foldl stand ts)).result = .ok e.before.bare := by
  induction done generalizing ts g ops with
  | nil =>
    cases ops with
    | nil => cases ran
    | cons first rest =>
      obtain ⟨g', a, more, -, -, he⟩ := run_cons_eq_ok.1 ran
      cases he
      exact backed.present
  | cons d done ih =>
    cases ops with
    | nil => cases ran
    | cons first rest =>
      obtain ⟨g', a, more, hp, hq, he⟩ := run_cons_eq_ok.1 ran
      cases he
      have timed : Backed sc start ts { g with now := first.1 } :=
        ⟨backed.scenario, backed.present, backed.earlier⟩
      have later := ih (timed.perform hp) hq
      exact later

end Session

end Storyworld
