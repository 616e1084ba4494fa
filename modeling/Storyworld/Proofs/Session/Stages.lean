import Storyworld.Proofs.Session.Refinement
import Storyworld.Proofs.Turn.Consequences

/-!
Turns that are taken in place. A turn drafts the next state effect by effect, and what it has
drafted stays when it fails. The session is written when the draft is finished and logged; after
that only the narrator is asked, whose failures go to the log. So a turn that fails leaves the
session as it was, and one that succeeds gives what the turn gives as a computation.
-/

namespace Storyworld

open Noting

namespace Session

/-- A session while a turn is taken, with the draft of its next state and the notices so far. -/
structure Desk where
  session : Session
  draft : State
  notices : List Notice

/-- A part of a turn. What it has changed on the desk stays when it fails. -/
abbrev Stage := ExceptT Mishap (StateM Desk)

namespace Stage

variable {α β : Type}

def on (x : Stage α) (d : Desk) : Except Mishap α × Desk := (x.run).run d

/-- Leaves the notices of a computation, and gives its result. -/
def ask (x : Noting Mishap α) : Stage α := fun d =>
  let (r, notices) := (x.run).run d.notices
  (r, { d with notices := notices })

/-- Puts another state in the place of the draft. -/
def onDraft (f : State → Noting Mishap (State × α)) : Stage α := do
  let (s, a) ← ask (f (← get).draft)
  modify fun d => { d with draft := s }
  return a

/-- Starts the draft from the state of the session. -/
def copyState : Stage Session := do
  modify fun d => { d with draft := d.session.state }
  return (← get).session

def effects (narrative : Bool) : List Effect → Stage (List String)
  | [] => pure []
  | e :: rest => do
    let lines ← onDraft fun s => (s.applyEffect narrative e).adapt .fault
    let more ← effects narrative rest
    return lines ++ more

/-- Runs lists of consequences. A list is read when those before it have been run. -/
def consequences : List (List Consequence) → Stage (List String)
  | [] => pure []
  | cs :: rest => do
    let es ← ask (.ofExcept ((readConsequences cs).mapError .misfits))
    let lines ← effects false es
    let more ← consequences rest
    return lines ++ more

def settle (g : Session) (rule : Option Nat) (lines : List String) : Stage TurnResult :=
  onDraft fun s => do
    let r ← (State.finish g.scenario g.now rule (s, lines)).adapt .fault
    return (r.state, r)

/-- Notes the turn itself in the log of the draft, with its changes, if it has a message. -/
def noteTurn (g : Session) : Option String → Stage (List LogEntry)
  | some m => onDraft fun s =>
    Noting.ofExcept (((g.noteAction m s).map fun p => (p.1, [p.2])).mapError .fault)
  | none => pure []

/-- Logs a turn in the draft and takes the draft over. The state before is kept first, then the new
one is put in its place. -/
def takeOver (g : Session) (message : Option String) (r : TurnResult) : Stage Turn := do
  let first ← noteTurn g message
  let lines ← onDraft fun s => pure (s.noteLines r.lines)
  modify fun d => { d with session := { d.session with past := d.session.keep g.state } }
  modify fun d => { d with session := { d.session with state := d.draft } }
  return ⟨first ++ lines, lines, none, r.moved⟩

end Stage

/-- A turn that is asked for: an action, or consequences in whatever form. -/
inductive Call where
  | act (id : String) (target : Option String) (success : Bool)
  | consequences (lists : List (List Consequence))

namespace Call

open Stage

/-- The message of the entry for the turn itself. -/
def message (g : Session) : Call → Option String
  | act id target _ => some (actionMessage g.scenario id target)
  | consequences _ => none

/-- The turn by the rules, on the draft. -/
def draft (g : Session) : Call → Stage TurnResult
  | act id target success =>
    match g.scenario.situation? g.state.situation with
    | none => do
      ask (warn (undefinedSituation g.scenario g.state id))
      return ⟨g.state, [], none, false⟩
    | some situation => do
      match ← ask ((situation.ruleFor id target g.state).adapt .fault) with
      | none => settle g none []
      | some (i, rule) => settle g (some i) (← effects true (rule.effectsFor success))
  | consequences lists => do
    settle g none (← Stage.consequences lists)

/-- What is told of a turn when the session has taken it over. -/
def tell (g : Session) (r : TurnResult) (p : Session × Turn) :
    Call → Noting Mishap (Session × Turn)
  | act id target _ => p.1.narrate id (.ofTurn g.scenario g.state r id target) p.2
  | consequences _ => pure p

/-- The whole turn, in place. -/
def inPlace (c : Call) : Stage Turn := do
  let g ← copyState
  let r ← c.draft g
  let t ← takeOver g (c.message g) r
  let (h, t) ← ask (c.tell g r ((← get).session, t))
  modify fun d => { d with session := h }
  return t

end Call

/-- A turn for consequences in whatever form. -/
def follow (g : Session) (lists : List (List Consequence)) : Noting Mishap (Session × Turn) := do
  let r ← (g.state.follow g.scenario g.now lists).adapt TurnFailure.toMishap
  .ofExcept ((g.commit none r).mapError .fault)

/-- The turn that is asked for, as a computation. -/
def call (g : Session) : Call → Noting Mishap (Session × Turn)
  | .act id target success => g.act id target success
  | .consequences lists => g.follow lists

/-- A move of a run, as a turn that is asked for. -/
def Call.ofMove : Move → Call
  | .action id target success => act id target success
  | .consequences lists => consequences (lists.map fun vs => vs.map .document)

theorem call_ofMove (g : Session) (m : Move) : g.call (.ofMove m) = g.take m := by
  cases m with
  | action id target success => rfl
  | consequences lists =>
    rw [Call.ofMove, call, follow, State.follow_documents]
    rfl

namespace Stage

variable {α β : Type} {g h : Session} {s t : State}

theorem on_bind (x : Stage α) (f : α → Stage β) (d : Desk) :
    (x >>= f).on d =
      match x.on d with
      | (.ok a, e) => (f a).on e
      | (.error m, e) => (.error m, e) := by
  unfold on
  rw [run_bind]
  generalize (x.run).run d = r
  obtain ⟨_ | a, e⟩ := r <;> rfl

@[simp] theorem on_pure (a : α) (d : Desk) : (pure a : Stage α).on d = (.ok a, d) := rfl

@[simp] theorem on_get (d : Desk) : (get : Stage Desk).on d = (.ok d, d) := rfl

@[simp] theorem on_modify (f : Desk → Desk) (d : Desk) :
    (modify f : Stage Unit).on d = (.ok (), f d) := rfl

@[simp] theorem on_ask (x : Noting Mishap α) (d : Desk) :
    (ask x).on d =
      (((x.run).run d.notices).1, { d with notices := ((x.run).run d.notices).2 }) := rfl

@[simp] theorem on_copyState (d : Desk) :
    copyState.on d = (.ok d.session, { d with draft := d.session.state }) := rfl

/-- On the draft `s` of a session, the stage `x` makes in place what `y` gives. It does not write to
the session, also when it fails. -/
structure Drafts (g : Session) (s : State) (x : Stage α) (y : Noting Mishap (State × α)) :
    Prop where
  gives : ∀ {notices later t a}, (y.run).run notices = (.ok (t, a), later) →
    x.on ⟨g, s, notices⟩ = (.ok a, ⟨g, t, later⟩)
  fails : ∀ {notices later m}, (y.run).run notices = (.error m, later) →
    ∃ t, x.on ⟨g, s, notices⟩ = (.error m, ⟨g, t, later⟩)

namespace Drafts

theorem pure (a : α) : Drafts g s (Pure.pure a) (Pure.pure (s, a)) where
  gives := by
    intro notices later t b h
    cases h
    rfl
  fails := nofun

theorem bind {x : Stage α} {f : α → Stage β} {y : Noting Mishap (State × α)}
    {z : State × α → Noting Mishap (State × β)} (first : Drafts g s x y)
    (next : ∀ t a, Drafts g t (f a) (z (t, a))) : Drafts g s (x >>= f) (y >>= z) where
  gives := by
    intro notices later t b h
    rw [run_bind] at h
    rw [on_bind]
    split at h
    · rename_i p middle done
      rw [first.gives done]
      exact (next p.1 p.2).gives h
    · cases h
  fails := by
    intro notices later m h
    rw [run_bind] at h
    rw [on_bind]
    split at h
    · rename_i p middle done
      rw [first.gives done]
      exact (next p.1 p.2).fails h
    · rename_i m' middle failed
      cases h
      obtain ⟨t, stopped⟩ := first.fails failed
      exact ⟨t, by rw [stopped]⟩

theorem ask {x : Noting Mishap α} {f : α → Stage β} {z : α → Noting Mishap (State × β)}
    (next : ∀ a, Drafts g s (f a) (z a)) : Drafts g s (Stage.ask x >>= f) (x >>= z) where
  gives := by
    intro notices later t b h
    rw [run_bind] at h
    rw [on_bind, on_ask]
    split at h
    · rename_i a middle done
      rw [done]
      exact (next a).gives h
    · cases h
  fails := by
    intro notices later m h
    rw [run_bind] at h
    rw [on_bind, on_ask]
    split at h
    · rename_i a middle done
      rw [done]
      exact (next a).fails h
    · rename_i m' middle failed
      cases h
      exact ⟨s, by rw [failed]⟩

theorem onDraft (f : State → Noting Mishap (State × α)) :
    Drafts g s (Stage.onDraft f) (f s) where
  gives := by
    intro notices later t a h
    simp only [Stage.onDraft, on_bind, on_get, on_ask, on_modify, on_pure, h]
  fails := by
    intro notices later m h
    exact ⟨s, by simp only [Stage.onDraft, on_bind, on_get, on_ask, h]⟩

theorem effects (narrative : Bool) (es : List Effect) :
    Drafts g s (Stage.effects narrative es) ((s.applyEffects narrative es).adapt .fault) := by
  induction es generalizing s with
  | nil => exact .pure []
  | cons e rest ih =>
    rw [Stage.effects, State.applyEffects, adapt_bind]
    refine .bind (.onDraft fun s => (s.applyEffect narrative e).adapt .fault) fun t lines => ?_
    rw [adapt_bind]
    exact .bind ih fun u more => .pure (lines ++ more)

theorem consequences (lists : List (List Consequence)) :
    Drafts g s (Stage.consequences lists)
      ((s.followLists lists).adapt TurnFailure.toMishap) := by
  induction lists generalizing s with
  | nil => exact .pure []
  | cons cs rest ih =>
    have read : (Noting.ofExcept ((readConsequences cs).mapError TurnFailure.misfits)).adapt
        TurnFailure.toMishap = Noting.ofExcept ((readConsequences cs).mapError .misfits) := by
      rw [adapt_ofExcept]
      cases readConsequences cs <;> rfl
    -- a list that cannot be read leaves what the lists before it have drafted
    rw [Stage.consequences, State.followLists, adapt_bind, read]
    refine .ask fun es => ?_
    rw [adapt_bind, adapt_adapt]
    refine .bind (.effects false es) fun t lines => ?_
    rw [adapt_bind]
    exact .bind ih fun u more => .pure (lines ++ more)

theorem settle (rule : Option Nat) (lines : List String) :
    Drafts g s (Stage.settle g rule lines)
      ((State.finish g.scenario g.now rule (s, lines)).adapt .fault >>= fun r =>
        Pure.pure (r.state, r)) :=
  .onDraft _

end Drafts

/-- Where the changes of a turn cannot be told, nothing is written to the session. -/
theorem on_takeOver (message : Option String) (r : TurnResult) (notices : List Notice) :
    (takeOver g message r).on ⟨g, r.state, notices⟩ =
      match g.commit message r with
      | .ok p => (.ok p.2, ⟨p.1, p.1.state, notices⟩)
      | .error f => (.error (.fault f), ⟨g, r.state, notices⟩) := by
  cases message with
  | none => rfl
  | some m =>
    rw [commit_eq_bind, takeOver, noteTurn, onDraft]
    simp only [on_bind, on_get, on_ask]
    cases g.noteAction m r.state with
    | error f => rfl
    | ok q => rfl

end Stage

namespace Call

/-- The turn by the rules, as a computation. -/
def play (g : Session) : Call → Noting Mishap TurnResult
  | act id target success => (g.state.act g.scenario g.now id target success).adapt .fault
  | consequences lists =>
    (g.state.follow g.scenario g.now lists).adapt TurnFailure.toMishap

/-- On a copy of the state, the turn by the rules drafts the state that the turn gives. -/
theorem drafts_play (g : Session) (c : Call) :
    Stage.Drafts g g.state (c.draft g) (c.play g >>= fun r => pure (r.state, r)) := by
  cases c with
  | act id target success =>
    unfold draft play State.act
    cases g.scenario.situation? g.state.situation with
    | none =>
      have quiet (m : String) : (warn m : Noting Fault Unit).adapt .fault =
          (warn m : Noting Mishap Unit) := rfl
      dsimp only
      rw [adapt_bind, bind_assoc, quiet]
      exact .ask fun _ => .pure _
    | some situation =>
      dsimp only
      rw [adapt_bind, bind_assoc, State.answer, adapt_bind, bind_assoc]
      refine .ask fun fired => ?_
      cases fired with
      | none => exact .settle none []
      | some p =>
        dsimp only
        rw [adapt_bind, bind_assoc]
        exact .bind (.effects true _) fun t lines => .settle (some p.1) lines
  | consequences lists =>
    rw [draft, play, State.follow, adapt_bind, bind_assoc]
    refine .bind (.consequences lists) fun t lines => ?_
    rw [adapt_adapt]
    exact .settle none lines

/-- The narrator never stops a turn. -/
theorem tell_gives (g : Session) (r : TurnResult) (p : Session × Turn) (c : Call)
    (notices : List Notice) :
    ∃ q later, ((c.tell g r p).run).run notices = (.ok q, later) := by
  cases c with
  | consequences lists => exact ⟨p, notices, rfl⟩
  | act id target success =>
    obtain ⟨h, t⟩ := p
    unfold tell Session.narrate
    dsimp only
    cases h.narrator with
    | none => exact ⟨_, _, rfl⟩
    | some n =>
      dsimp only
      split
      · exact ⟨_, _, rfl⟩
      · exact ⟨_, _, rfl⟩
      · exact ⟨_, _, rfl⟩

theorem call_eq (g : Session) (c : Call) : g.call c = c.play g >>= fun r =>
    Noting.ofExcept ((g.commit (c.message g) r).mapError .fault) >>= c.tell g r := by
  cases c with
  | act id target success => rfl
  | consequences lists => exact (bind_congr fun r => (bind_pure _).symm)

/-- In place, a turn writes the session that it gives as a computation, and if it fails it has
written nothing to the session. -/
theorem on_inPlace (c : Call) (d : Desk) :
    match ((d.session.call c).run).run d.notices with
    | (.ok p, later) => ∃ s, c.inPlace.on d = (.ok p.2, ⟨p.1, s, later⟩)
    | (.error m, later) => ∃ s, c.inPlace.on d = (.error m, ⟨d.session, s, later⟩) := by
  obtain ⟨g, s, notices⟩ := d
  have drafted := drafts_play g c
  rw [call_eq, run_bind]
  unfold inPlace
  simp only [Stage.on_bind, Stage.on_copyState]
  cases played : ((c.play g).run).run notices with
  | mk result later =>
    cases result with
    | error m =>
      obtain ⟨t, failed⟩ := drafted.fails (by rw [run_bind, played])
      exact ⟨t, by rw [failed]⟩
    | ok r =>
      have given : ((c.play g >>= fun r => pure (r.state, r)).run).run notices =
          (.ok (r.state, r), later) := by
        rw [run_bind, played]
        rfl
      -- the last failure is that of the changes, and it comes before both writes
      simp only [drafted.gives given, Stage.on_takeOver]
      cases g.commit (c.message g) r with
      | error f => exact ⟨r.state, rfl⟩
      | ok p =>
        obtain ⟨q, last, told⟩ := tell_gives g r p c later
        have whole : (((Noting.ofExcept ((Except.ok p).mapError .fault) >>=
            fun p => c.tell g r p).run).run later) = (.ok q, last) := told
        rw [whole]
        exact ⟨p.1.state, by simp only [Stage.on_get, Stage.on_ask, Stage.on_modify,
          Stage.on_pure, told]⟩

theorem steady_call (g : Session) (c : Call) : Steady (g.call c) := by
  cases c with
  | act id target success => exact steady_take g (.action id target success)
  | consequences lists =>
    have steady : Steady (g.state.follow g.scenario g.now lists) :=
      (State.steady_followLists lists g.state).bind fun p => (State.steady_finish ..).adapt
    exact steady.adapt.bind fun r => steady_ofExcept _

theorem result_call (c : Call) (d : Desk) :
    (d.session.call c).result =
      match c.inPlace.on d with
      | (.ok t, after) => .ok (after.session, t)
      | (.error m, _) => .error m := by
  have agrees := on_inPlace c d
  rw [← (steady_call d.session c).same d.notices]
  split at agrees
  · rename_i p later ran
    obtain ⟨s, done⟩ := agrees
    rw [ran, done]
  · rename_i m later ran
    obtain ⟨s, failed⟩ := agrees
    rw [ran, failed]

theorem result_call_eq_ok {c : Call} {d : Desk} {h : Session} {t : Turn} :
    (d.session.call c).result = .ok (h, t) ↔
      ∃ after, c.inPlace.on d = (.ok t, after) ∧ after.session = h := by
  rw [result_call]
  obtain ⟨m | u, after⟩ := c.inPlace.on d
  · exact iff_of_false nofun (by rintro ⟨after, ⟨⟩, -⟩)
  · constructor
    · rintro ⟨⟩
      exact ⟨after, rfl, rfl⟩
    · rintro ⟨after, ⟨⟩, rfl⟩
      rfl

theorem result_call_eq_error {c : Call} {d : Desk} {m : Mishap} :
    (d.session.call c).result = .error m ↔ (c.inPlace.on d).1 = .error m := by
  rw [result_call]
  obtain ⟨m' | t, after⟩ := c.inPlace.on d
  · rw [Except.error.injEq, Except.error.injEq]
  · exact iff_of_false nofun nofun

theorem session_of_error {c : Call} {d after : Desk} {m : Mishap}
    (h : c.inPlace.on d = (.error m, after)) : after.session = d.session := by
  have agrees := on_inPlace c d
  split at agrees
  · obtain ⟨s, done⟩ := agrees
    cases h.symm.trans done
  · obtain ⟨s, failed⟩ := agrees
    cases h.symm.trans failed
    rfl

end Call

end Session

end Storyworld
