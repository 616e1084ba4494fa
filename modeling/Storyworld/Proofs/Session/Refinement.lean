import Storyworld.Proofs.Session.Replay

/-!
Sessions that agree but for their narrators, logs and scene texts go on to agree: they take the same
turns, undo the same turns and fail at the same operations. With the replay of the turns that stand
this makes a session a refinement of the rules.
-/

namespace Storyworld

open Noting

theorem Move.play_alike {sc : Scenario} {now : Timestamp} {s s' : State} {m : Move}
    {r : TurnResult} (alike : s'.bare = s.bare) (hr : (m.play sc now s).result = .ok r) :
    ∃ r', (m.play sc now s').result = .ok r' ∧
      r'.withRecords [] [] = r.withRecords [] [] := by
  have same : (m.play sc now s').result.map (TurnResult.withRecords [] []) =
      .ok (r.withRecords [] []) := by
    rw [← play_bare, alike, play_bare, hr]
    rfl
  exact map_eq_ok.1 same

theorem Move.Told.alike {sc : Scenario} {s s' t t' : State} {m : Move} (told : m.Told sc s t)
    (hs : s'.bare = s.bare) (ht : t'.bare = t.bare) : m.Told sc s' t' := by
  cases m with
  | action id target success =>
    obtain ⟨cs, hcs⟩ := told
    refine ⟨cs, ?_⟩
    rw [← changesBetween_bare, hs, ht, changesBetween_bare, hcs]
  | consequences lists => trivial

namespace Session

/-- Two sessions of one scenario that differ in narrators, logs and scene texts only. -/
structure Alike (g g' : Session) : Prop where
  scenario : g'.scenario = g.scenario
  limit : g'.limit = g.limit
  present : g'.state.bare = g.state.bare
  past : g'.past.map State.bare = g.past.map State.bare

/-- A step without the records of its state. -/
def Step.bare (e : Step) : Step :=
  { e with before := e.before.bare }

theorem Alike.keep {g g' : Session} (alike : Alike g g') :
    (g'.keep g'.state).map State.bare = (g.keep g.state).map State.bare := by
  have whole : (g'.state :: g'.past).map State.bare = (g.state :: g.past).map State.bare := by
    simp only [List.map_cons, alike.present, alike.past]
  unfold Session.keep
  rw [alike.limit]
  split
  · rw [List.map_take, List.map_take, whole]
  · exact whole

theorem Alike.move {g g' h : Session} {m : Move} {a : Answer} (alike : Alike g g')
    (now : g'.now = g.now) (done : (g.perform (.move m)).result = .ok (h, a)) :
    ∃ h', (g'.perform (.move m)).result = .ok (h', a) ∧ Alike h h' := by
  obtain ⟨t, ht, rfl⟩ := perform_move_eq_ok.1 done
  obtain ⟨r, hr, told, took⟩ := take_eq_ok ht
  obtain ⟨r', hr', same⟩ := Move.play_alike alike.present hr
  have states : r'.state.bare = r.state.bare := congrArg TurnResult.state same
  rw [← alike.scenario, ← now] at hr'
  obtain ⟨⟨h', t'⟩, ht'⟩ := take_isOk hr' (by
    rw [alike.scenario]
    exact told.alike alike.present states)
  obtain ⟨r'', hr'', -, took'⟩ := take_eq_ok ht'
  cases hr'.symm.trans hr''
  obtain ⟨log, hlog⟩ := took.state
  obtain ⟨log', hlog'⟩ := took'.state
  have answers := congrArg (fun r : TurnResult => Answer.turn r.moved r.lines) same
  refine ⟨h', perform_move_eq_ok.2 ⟨t', ht', ?_⟩, ?_, ?_, ?_, ?_⟩
  · rw [took.answer, took'.answer]
    exact answers.symm
  · rw [took.scenario, took'.scenario, alike.scenario]
  · rw [took.limit, took'.limit, alike.limit]
  · rw [hlog, hlog']
    exact states
  · rw [took.past, took'.past, alike.keep]

theorem Alike.undo {g g' : Session} (alike : Alike g g') :
    g'.undo.2 = g.undo.2 ∧ Alike g.undo.1 g'.undo.1 := by
  have past := alike.past
  unfold Session.undo
  cases hp : g.past with
  | nil =>
    rw [hp] at past
    rw [List.map_eq_nil_iff.1 past]
    exact ⟨rfl, alike⟩
  | cons p rest =>
    rw [hp] at past
    obtain ⟨p', rest', hp', hs, hr⟩ := List.map_eq_cons_iff.1 past
    rw [hp']
    exact ⟨rfl, alike.scenario, alike.limit, hs, hr⟩

theorem Alike.perform {g g' h : Session} {op : Operation} {a : Answer} (alike : Alike g g')
    (now : g'.now = g.now) (done : (g.perform op).result = .ok (h, a)) :
    ∃ h', (g'.perform op).result = .ok (h', a) ∧ Alike h h' := by
  cases op with
  | move m => exact alike.move now done
  | undo =>
    cases done
    exact ⟨g'.undo.1, by rw [← alike.undo.1]; rfl, alike.undo.2⟩
  | describe situation text =>
    cases done
    exact ⟨_, rfl, alike.scenario, alike.limit, alike.present, alike.past⟩

theorem Alike.run {ops : List (Timestamp × Operation)} {g g' h : Session} {steps : List Step}
    (alike : Alike g g') (ran : (g.run ops).result = .ok (h, steps)) :
    ∃ h' steps', (g'.run ops).result = .ok (h', steps') ∧ Alike h h' ∧
      steps'.map Step.bare = steps.map Step.bare := by
  induction ops generalizing g g' steps with
  | nil =>
    cases ran
    exact ⟨g', [], rfl, alike, rfl⟩
  | cons e rest ih =>
    obtain ⟨now, op⟩ := e
    obtain ⟨g₁, a, more, hp, hq, rfl⟩ := run_cons_eq_ok.1 ran
    have timed : Alike { g with now := now } { g' with now := now } :=
      ⟨alike.scenario, alike.limit, alike.present, alike.past⟩
    obtain ⟨g₁', hp', stepped⟩ := timed.perform rfl hp
    obtain ⟨h', more', hq', finished, same⟩ := ih stepped hq
    refine ⟨h', _, run_cons_eq_ok.2 ⟨g₁', a, more', hp', hq', rfl⟩, finished, ?_⟩
    simp only [List.map_cons, same, Step.bare, alike.present]

/-- A session refines the rules, and its narrator, its log and its scene texts have no say in it.
At every step and at the end its state, records aside, is the replay of the turns that stand; and a
session that starts from the same state but for these three takes the very same steps. -/
theorem run_refines_replay {sc : Scenario} {s : State} {limit : Option Int}
    {narrator : Option Narrator} {now : Timestamp} {g h : Session}
    {ops : List (Timestamp × Operation)} {steps : List Step}
    (start : resume sc s limit narrator now = .ok g)
    (ran : (g.run ops).result = .ok (h, steps)) :
    (∀ done e later, steps = done ++ e :: later →
      (replay sc s.bare (standing done)).result = .ok e.before.bare) ∧
    (replay sc s.bare (standing steps)).result = .ok h.state.bare ∧
    ∀ s' narrator' now' g', s'.bare = s.bare → resume sc s' limit narrator' now' = .ok g' →
      ∃ h' steps', (g'.run ops).result = .ok (h', steps') ∧ h'.state.bare = h.state.bare ∧
        steps'.map Step.bare = steps.map Step.bare := by
  obtain ⟨l, rfl, rfl⟩ := resume_eq_ok start
  have backed : Backed sc s.bare [] ⟨sc, s, [], l, narrator, now⟩ :=
    ⟨rfl, rfl, fun k p hp => nomatch hp⟩
  refine ⟨?_, (backed.run ran).present, ?_⟩
  · rintro done e later rfl
    exact backed.within ran
  · intro s' narrator' now' g' hs start'
    obtain ⟨l', hl, rfl⟩ := resume_eq_ok start'
    have limits : l' = l := (Option.map_injective fun _ _ => Int.ofNat.inj) hl.symm
    have alike : Alike ⟨sc, s, [], l, narrator, now⟩ ⟨sc, s', [], l', narrator', now'⟩ :=
      ⟨rfl, limits, hs, rfl⟩
    obtain ⟨h', steps', ran', finished, same⟩ := alike.run ran
    exact ⟨h', steps', ran', finished.present, same⟩

def wellTeller : Narrator :=
  ⟨.bundled, [.text "A splash.", .failure "no voice"], []⟩

def drawTwiceUndoTwice : List (Timestamp × Operation) :=
  drawTwice ++ [(noon, .undo), (noon, .undo)]

/-- Of two turns, told by a narrator that loses its voice, the second is undone; there is no room to
undo the first. A session without a narrator goes the same way. -/
theorem run_refines_replay_well :
    ∃ h steps,
      resume well (well.start none) (some 1) (some wellTeller) noon =
        .ok (wellSession (some wellTeller)) ∧
      ((wellSession (some wellTeller)).run drawTwiceUndoTwice).result = .ok (h, steps) ∧
      steps.map Step.answer = [.turn false ["Cold water."], .described,
        .turn false ["Cold water."], .undone true, .undone false] ∧
      (replay well (well.start none).bare (standing steps)).result = .ok h.state.bare ∧
      ∃ h' steps', ((wellSession none).run drawTwiceUndoTwice).result = .ok (h', steps') ∧
        h'.state.bare = h.state.bare ∧ steps'.map Step.bare = steps.map Step.bare := by
  obtain ⟨⟨h, steps⟩, ran⟩ :
      ∃ p, ((wellSession (some wellTeller)).run drawTwiceUndoTwice).result = .ok p := ⟨_, rfl⟩
  have start : resume well (well.start none) (some 1) (some wellTeller) noon =
      .ok (wellSession (some wellTeller)) := rfl
  have answers : ((wellSession (some wellTeller)).run drawTwiceUndoTwice).result.map
      (fun p => p.2.map Step.answer) = .ok [.turn false ["Cold water."], .described,
        .turn false ["Cold water."], .undone true, .undone false] := rfl
  rw [ran] at answers
  have refined := run_refines_replay start ran
  exact ⟨h, steps, start, ran, Except.ok.inj answers, refined.2.1,
    refined.2.2 (well.start none) none noon (wellSession none) rfl rfl⟩

end Session

end Storyworld
