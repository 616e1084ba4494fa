import Storyworld.Proofs.Session.Stages

/-!
What a failure leaves behind. A turn that fails leaves its session as it was, so that an undo still
finds the state from before the last turn that succeeded. The failure of a narrator comes too late
to stop a turn and only adds an entry to the log.
-/

namespace Storyworld

open Noting

namespace Session

namespace Call

theorem steady_tell (g : Session) (r : TurnResult) (p : Session × Turn) (c : Call) :
    Steady (c.tell g r p) := by
  cases c with
  | act id target success => exact steady_narrate ..
  | consequences lists => exact steady_pure _

theorem result_call_eq_bind (g : Session) (c : Call) :
    (g.call c).result = (c.play g).result >>= fun r =>
      (g.commit (c.message g) r).mapError .fault >>= fun p => (c.tell g r p).result := by
  rw [call_eq, result_bind _ _ fun r => (steady_ofExcept _).bind fun p => steady_tell g r p c]
  congr 1
  funext r
  rw [result_bind _ _ fun p => steady_tell g r p c, result_ofExcept]

theorem call_took {g : Session} {c : Call} {p : Session × Turn} (h : (g.call c).result = .ok p) :
    ∃ r, Took g r p := by
  cases c with
  | act id target success =>
    obtain ⟨r, -, -, took⟩ := take_eq_ok (m := .action id target success) h
    exact ⟨r, took⟩
  | consequences lists =>
    rw [result_call_eq_bind] at h
    obtain ⟨r, -, h⟩ := bind_eq_ok.1 h
    obtain ⟨q, committed, told⟩ := bind_eq_ok.1 h
    cases told
    exact ⟨r, (commit_took (mapError_eq_ok.1 committed)).2⟩

end Call

/-- The session without its narrator. -/
def silent (g : Session) : Session :=
  { g with narrator := none }

def Desk.silent (d : Desk) : Desk :=
  { d with session := d.session.silent }

theorem commit_narrator {g : Session} {message : Option String} {r : TurnResult}
    {p : Session × Turn} (h : g.commit message r = .ok p) : p.1.narrator = g.narrator := by
  rw [commit_eq_bind] at h
  obtain ⟨q, -, taken⟩ := bind_eq_ok.1 h
  cases taken
  rfl

theorem commit_silent (g : Session) (message : Option String) (r : TurnResult) :
    g.silent.commit message r = (g.commit message r).map fun p => (p.1.silent, p.2) := by
  cases message with
  | none => rfl
  | some m =>
    have noted : g.silent.noteAction m r.state = g.noteAction m r.state := rfl
    rw [commit_eq_bind, commit_eq_bind]
    dsimp only
    rw [noted]
    cases g.noteAction m r.state with
    | error f => rfl
    | ok q => rfl

namespace Call

/-- What is taken over before the narrator is asked. -/
def taken (g : Session) (c : Call) : Except Mishap (Session × Turn) :=
  (c.play g).result >>= fun r => (g.commit (c.message g) r).mapError .fault

/-- A narrator does not make a turn fail. -/
theorem call_eq_error {g : Session} {c : Call} {m : Mishap} :
    (g.call c).result = .error m ↔ c.taken g = .error m := by
  rw [result_call_eq_bind, taken, bind_eq_error, bind_eq_error]
  refine or_congr_right (exists_congr fun r => and_congr_right fun _ => ?_)
  rw [bind_eq_error]
  constructor
  · rintro (failed | ⟨p, -, told⟩)
    · exact failed
    · obtain ⟨q, later, gives⟩ := tell_gives g r p c []
      cases told.symm.trans (congrArg Prod.fst gives)
  · exact .inl

theorem result_call_silent (g : Session) (c : Call) :
    (g.silent.call c).result = (c.taken g).map fun p => (p.1.silent, p.2) := by
  have played : c.play g.silent = c.play g := by cases c <;> rfl
  have message : c.message g.silent = c.message g := by cases c <;> rfl
  rw [result_call_eq_bind, played, message, taken]
  cases (c.play g).result with
  | error m => rfl
  | ok r =>
    change ((g.silent.commit _ r).mapError Mishap.fault >>= _) =
      ((g.commit _ r).mapError Mishap.fault).map _
    rw [commit_silent]
    cases g.commit (c.message g) r with
    | error f => rfl
    | ok p => cases c <;> rfl

theorem call_silent_eq_error {g : Session} {c : Call} {m : Mishap} :
    (g.silent.call c).result = .error m ↔ c.taken g = .error m := by
  rw [result_call_silent, map_eq_error]

/-- An action is played, and the narrator fails with `m` when it is asked to tell it. -/
def Untold (g : Session) (m : Mishap) : Call → Prop
  | act id target success => ∃ n r, g.narrator = some n ∧
      ((act id target success).play g).result = .ok r ∧
        (n.narrate (.ofTurn g.scenario g.state r id target)).2 = .error m
  | consequences _ => False

/-- The entry for a failure of the narrator. -/
def untoldEntry (s : State) (m : Mishap) : LogEntry :=
  ⟨s.nextLogId, .error, "Narration unavailable: " ++ m.message.getD "", none, none⟩

theorem narrate_of_failure {g : Session} {n : Narrator} {request : Narration.Request} {m : Mishap}
    (there : g.narrator = some n) (failed : (n.narrate request).2 = .error m) (id : String)
    (t : Turn) :
    ∃ h, (g.narrate id request t).result = .ok (h, { t with
        entries := t.entries ++ [untoldEntry g.state m]
        narrative := some (untoldEntry g.state m) }) ∧
      h.past = g.past ∧ h.state = g.state.append (untoldEntry g.state m) := by
  cases asked : n.narrate request with
  | mk later told =>
    rw [asked] at failed
    cases failed
    unfold Session.narrate
    rw [there]
    dsimp only
    rw [asked]
    exact ⟨_, rfl, rfl, rfl⟩

/-- An action that is not told is taken over like one without a narrator, and the failure is logged
after it. -/
theorem Untold.gives {g k : Session} {m : Mishap} {c : Call} {t : Turn} (untold : Untold g m c)
    (quiet : (g.silent.call c).result = .ok (k, t)) :
    ∃ h, (g.call c).result = .ok (h, { t with
        entries := t.entries ++ [untoldEntry k.state m]
        narrative := some (untoldEntry k.state m) }) ∧
      h.past = k.past ∧ h.state = k.state.append (untoldEntry k.state m) := by
  cases c with
  | consequences lists => exact untold.elim
  | act id target success =>
    obtain ⟨n, r, there, played, failed⟩ := untold
    rw [result_call_silent, taken, played] at quiet
    obtain ⟨p, committed, same⟩ := map_eq_ok.1 quiet
    cases same
    have committed := mapError_eq_ok.1 committed
    have kept := (commit_narrator committed).trans there
    obtain ⟨h, told, past, state⟩ := narrate_of_failure kept failed id p.2
    refine ⟨h, ?_, past, state⟩
    rw [result_call_eq_bind]
    exact bind_eq_ok.2 ⟨r, played, bind_eq_ok.2 ⟨p, mapError_eq_ok.2 committed, told⟩⟩

end Call

/-- A turn at some time fails, and this is left on the desk. -/
def Fails (d after : Desk) : Prop :=
  ∃ now c m, (Call.inPlace c).on { d with session := { d.session with now := now } } =
    (.error m, after)

/-- However many turns fail, only the clock of the session goes on. -/
theorem session_of_fails {d later : Desk} (h : Relation.ReflTransGen Fails d later) :
    later.session = { d.session with now := later.session.now } := by
  induction h with
  | refl => rfl
  | tail _ failed ih =>
    obtain ⟨now, c, m, failed⟩ := failed
    rw [Call.session_of_error failed, ih]

/-- A turn can be taken back exactly if there is room for it. -/
theorem Took.undo {g : Session} {r : TurnResult} {p : Session × Turn} (took : Took g r p) :
    (p.1.undo.2 = true ↔ g.limit ≠ some 0) ∧
      (p.1.undo.2 = true → p.1.undo.1.state = g.state) := by
  have past := took.past
  unfold keep at past
  unfold Session.undo
  split at past
  · rename_i n limit
    rw [past, limit]
    cases n with
    | zero => exact ⟨by simp, nofun⟩
    | succ n => exact ⟨by simp, fun _ => rfl⟩
  · rename_i limit
    rw [past, limit]
    exact ⟨by simp, fun _ => rfl⟩

/-- A turn that fails leaves the session as it was, whatever was drafted before it failed. So after
a turn that succeeds any turns may fail, and an undo restores the state from before it, if there is
room for one. A narrator never makes a turn fail: if it fails itself, the turn is taken as without
a narrator, and one entry for the failure follows. -/
theorem failed_turn_leaves_session (c : Call) (d : Desk) :
    (∀ m after, c.inPlace.on d = (.error m, after) →
      after.session = d.session ∧ (d.session.call c).result = .error m) ∧
    (∀ t after, c.inPlace.on d = (.ok t, after) →
      (d.session.call c).result = .ok (after.session, t) ∧
      ∀ later, Relation.ReflTransGen Fails after later →
        later.session = { after.session with now := later.session.now } ∧
        (later.session.undo.2 = true ↔ d.session.limit ≠ some 0) ∧
        (later.session.undo.2 = true → later.session.undo.1.state = d.session.state)) ∧
    (∀ m, (c.inPlace.on d).1 = .error m ↔
      (c.inPlace.on d.silent).1 = .error m) ∧
    ∀ m t quiet, c.Untold d.session m →
      c.inPlace.on d.silent = (.ok t, quiet) →
      ∃ after, c.inPlace.on d = (.ok { t with
          entries := t.entries ++ [Call.untoldEntry quiet.session.state m]
          narrative := some (Call.untoldEntry quiet.session.state m) }, after) ∧
        after.session.past = quiet.session.past ∧
        after.session.state =
          quiet.session.state.append (Call.untoldEntry quiet.session.state m) := by
  refine ⟨fun m after failed => ⟨Call.session_of_error failed, ?_⟩,
    fun t after done => ?_, fun m => ?_, fun m t quiet untold done => ?_⟩
  · exact Call.result_call_eq_error.2 (by rw [failed])
  · have taken := Call.result_call_eq_ok.2 ⟨after, done, rfl⟩
    refine ⟨taken, fun later failures => ?_⟩
    obtain ⟨r, took⟩ := Call.call_took taken
    have same := session_of_fails failures
    have still : Took d.session r (later.session, t) := by
      rw [same]
      exact ⟨took.state, took.past, took.scenario, took.limit, took.answer⟩
    exact ⟨same, still.undo⟩
  · rw [← Call.result_call_eq_error, Call.call_eq_error, ← Call.call_silent_eq_error]
    exact Call.result_call_eq_error (d := d.silent)
  · have quietly := Call.result_call_eq_ok (d := d.silent).2 ⟨quiet, done, rfl⟩
    obtain ⟨h, gives, past, state⟩ := untold.gives quietly
    obtain ⟨after, done', rfl⟩ := Call.result_call_eq_ok.1 gives
    exact ⟨after, done', past, state⟩

/-- A session at the well, whose narrator has lost its voice. -/
def wellside : Desk :=
  ⟨wellSession (some ⟨.bundled, [.failure "no voice"], []⟩), well.start none, []⟩

/-- Consequences that add water before one of them turns out to be malformed. -/
def spill : Call :=
  .consequences [[.document (.mapping [("add", .text "counters.water,1")])],
    [.document (.mapping [("add", .list [])])]]

def draw : Call := .act "draw" none true

/-- The water that was drafted is spilt: the session does not have it, nor is it in the way of the
undo of a turn before. A narrator without a voice leaves an entry behind. -/
theorem failed_turn_leaves_session_wellside :
    ∃ spilt t drawn later after,
      spill.inPlace.on wellside = (.error (.misfits [⟨.text, [.key "add"]⟩]), spilt) ∧
      lookupLast "water" spilt.draft.counters = some (.number (.int 1)) ∧
      spilt.session = wellside.session ∧
      draw.inPlace.on wellside.silent = (.ok t, drawn) ∧
      spill.inPlace.on drawn = (.error (.misfits [⟨.text, [.key "add"]⟩]), later) ∧
      later.session.undo.1.state = wellside.session.state ∧
      draw.Untold wellside.session (.narration "no voice") ∧
      draw.inPlace.on wellside = (.ok { t with
        entries := t.entries ++ [⟨3, .error, "Narration unavailable: no voice", none, none⟩]
        narrative := some ⟨3, .error, "Narration unavailable: no voice", none, none⟩ }, after) := by
  obtain ⟨spilt, spilling, water⟩ : ∃ spilt,
      spill.inPlace.on wellside = (.error (.misfits [⟨.text, [.key "add"]⟩]), spilt) ∧
      lookupLast "water" spilt.draft.counters = some (.number (.int 1)) := by
    refine ⟨?spilt, ?run, ?water⟩
    case run =>
      cbv
      rfl
    case water => rfl
  obtain ⟨t, drawn, later, drawing, next, again⟩ : ∃ t drawn later,
      draw.inPlace.on wellside.silent = (.ok t, drawn) ∧ drawn.session.state.nextLogId = 3 ∧
      spill.inPlace.on drawn = (.error (.misfits [⟨.text, [.key "add"]⟩]), later) := by
    refine ⟨?t, ?drawn, ?later, ?first, ?next, ?second⟩
    case first =>
      cbv
      rfl
    case next => rfl
    case second =>
      cbv
      rfl
  have fails : Fails drawn later := ⟨drawn.session.now, spill, _, again⟩
  have untold : draw.Untold wellside.session (.narration "no voice") := by
    refine ⟨_, _, rfl, rfl, ?_⟩
    rfl
  obtain ⟨unspilt, -, -, -⟩ := failed_turn_leaves_session spill wellside
  obtain ⟨-, undoes, -, -⟩ := failed_turn_leaves_session draw wellside.silent
  obtain ⟨-, -, -, tells⟩ := failed_turn_leaves_session draw wellside
  obtain ⟨-, room, restores⟩ := (undoes t drawn drawing).2 later (.single fails)
  obtain ⟨after, told, -, -⟩ := tells _ t drawn untold drawing
  rw [Call.untoldEntry, next] at told
  exact ⟨spilt, t, drawn, later, after, spilling, water, (unspilt _ spilt spilling).1, drawing,
    again, restores (room.2 (by decide)), untold, told⟩

end Session

end Storyworld
