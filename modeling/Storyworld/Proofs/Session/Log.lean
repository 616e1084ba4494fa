import Storyworld.Proofs.Session.Refinement
import Storyworld.Proofs.Turn.Course
import Storyworld.State.Start

/-!
The log of a session. Turns only add to it, in the order in which they list their entries, and an undo
brings back the log from before the turn. So the numbers in the log are always those from one on, though
each of them is found anew as one more than the greatest.
-/

namespace Storyworld

open Noting

/-- A log whose entries have the numbers from one on, in their order. -/
def Numbered (log : List LogEntry) : Prop :=
  log.map LogEntry.id = (List.range' 1 log.length).map Int.ofNat

theorem Numbered.concat {log : List LogEntry} {e : LogEntry} (numbered : Numbered log)
    (next : e.id = log.length + 1) : Numbered (log ++ [e]) := by
  have last : Int.ofNat (1 + log.length) = e.id := by
    rw [next, Nat.add_comm]
    rfl
  unfold Numbered at *
  rw [List.map_append, numbered, List.length_append, List.length_singleton, List.range'_concat,
    List.map_append, Nat.one_mul, List.map_singleton, List.map_singleton, last]

theorem foldl_max_consecutive {k : Nat} {es : List LogEntry}
    (ids : es.map LogEntry.id = (List.range' (k + 1) es.length).map Int.ofNat) :
    es.foldl (fun m e => max m e.id) (k : Int) = k + es.length := by
  induction es generalizing k with
  | nil => simp
  | cons e rest ih =>
    simp only [List.map_cons, List.length_cons, List.range'_succ, List.cons.injEq] at ids
    obtain ⟨first, others⟩ := ids
    have greater : max (k : Int) e.id = ((k + 1 : Nat) : Int) := by
      rw [first, Int.ofNat_eq_natCast]
      omega
    rw [List.foldl_cons, greater, ih others]
    push_cast [List.length_cons]
    omega

namespace State

theorem nextLogId_of_numbered {s : State} (numbered : Numbered s.log) :
    s.nextLogId = s.log.length + 1 := by
  unfold nextLogId
  cases log : s.log with
  | nil => rfl
  | cons e rest =>
    rw [log] at numbered
    simp only [Numbered, List.map_cons, List.length_cons, List.range'_succ, List.cons.injEq]
      at numbered
    obtain ⟨first, others⟩ := numbered
    have one : e.id = (1 : Nat) := first
    dsimp only
    rw [one, foldl_max_consecutive others]
    push_cast [List.length_cons]
    omega

/-- The log of a state is another one with some entries added, and these go on with its numbers. -/
structure Logs (log added : List LogEntry) (s : State) : Prop where
  grown : s.log = log ++ added
  numbered : Numbered log → Numbered s.log

theorem Logs.note {log added : List LogEntry} {s : State} (logs : Logs log added s)
    (kind : LogKind) (message : String) (changes : Option (List Change)) :
    Logs log (added ++ [(s.note kind message changes).2]) (s.note kind message changes).1 where
  grown := by
    rw [← List.append_assoc, ← logs.grown]
    rfl
  numbered start :=
    (logs.numbered start).concat (nextLogId_of_numbered (logs.numbered start))

theorem Logs.noteLines {log added : List LogEntry} {s : State} (logs : Logs log added s)
    (lines : List String) :
    Logs log (added ++ (s.noteLines lines).2) (s.noteLines lines).1 := by
  induction lines generalizing s added with
  | nil => simpa [State.noteLines] using logs
  | cons line rest ih =>
    have later := ih (logs.note .procedural line none)
    rwa [List.append_assoc] at later

theorem noteLines_procedural (lines : List String) (s : State) :
    ∀ e ∈ (s.noteLines lines).2, e.kind = .procedural := by
  induction lines generalizing s with
  | nil => exact nofun
  | cons line rest ih =>
    refine List.forall_mem_cons.2 ⟨rfl, ih _⟩

theorem Alters.log {s t : State} {e : Effect} (h : Alters e s t) : t.log = s.log := by
  cases h <;> rfl

end State

theorem proceduralEntries_messages (first : Int) (lines : List String) :
    (proceduralEntries first lines).map LogEntry.message = lines := by
  induction lines generalizing first with
  | nil => rfl
  | cons line rest ih => exact congrArg (line :: ·) (ih _)

/-- The rules alone leave the log as it is. -/
theorem Move.play_log {sc : Scenario} {now : Timestamp} {s : State} {m : Move} {r : TurnResult}
    (played : (m.play sc now s).result = .ok r) : r.state.log = s.log := by
  obtain ⟨-, rfl⟩ | ⟨draft, altered, resolved⟩ := play_eq_ok played
  · rfl
  · have worked : draft.log = s.log := altered.same State.Alters.log
    obtain ⟨rfl, -⟩ | ⟨id, -, moved, -⟩ := State.resolve_eq_ok resolved
    · exact worked
    · obtain ⟨p, recorded⟩ := State.recordEnding_eq sc now (draft.moveTo id)
      rw [moved, recorded]
      exact worked

/-- The message of a turn in the log; consequences have none. -/
def Move.message? (sc : Scenario) : Move → Option String
  | action id target _ => some (Session.actionMessage sc id target)
  | consequences _ => none

namespace Session

/-- The entries in front of the lines of the story: one for the message, if there is one. -/
def Opens : Option String → List LogEntry → Prop
  | some message, es => ∃ e, es = [e] ∧ e.kind = .action ∧ e.message = message
  | none, es => es = []

/-- What a turn lists: its message, then one entry for each line that the rules have told, and at
the end at most one entry of the narrator. -/
structure Lists (message : Option String) (s : State) (r : TurnResult) (t : Turn) : Prop where
  entries : ∃ first, Opens message first ∧ t.entries = first ++ t.procedural ++ t.narrative.toList
  procedural : ∀ e ∈ t.procedural, e.kind = .procedural
  messages : t.procedural.map LogEntry.message = (r.entries s).map LogEntry.message
  narrative : ∀ e, t.narrative = some e → e.kind = .narrative ∨ e.kind = .error

/-- A turn adds to the log what it lists. -/
structure Writes (message : Option String) (s : State) (r : TurnResult) (p : Session × Turn) :
    Prop where
  logs : State.Logs s.log p.2.entries p.1.state
  lists : Lists message s r p.2

theorem commit_writes {g : Session} {message : Option String} {r : TurnResult}
    {p : Session × Turn} (kept : r.state.log = g.state.log)
    (committed : g.commit message r = .ok p) :
    Writes message g.state r p ∧ p.2.narrative = none := by
  rw [commit_eq_bind] at committed
  obtain ⟨q, opened, committed⟩ := bind_eq_ok.1 committed
  cases committed
  have before : State.Logs g.state.log [] r.state :=
    ⟨by rw [kept, List.append_nil], fun start => kept ▸ start⟩
  have opening : State.Logs g.state.log q.2 q.1 ∧ Opens message q.2 := by
    cases message with
    | none =>
      cases opened
      exact ⟨before, rfl⟩
    | some text =>
      obtain ⟨a, noted, rfl⟩ := map_eq_ok.1 opened
      obtain ⟨changes, -, noted⟩ := bind_eq_ok.1 noted
      cases noted
      exact ⟨before.note .action text _, _, rfl, rfl, rfl⟩
  obtain ⟨logs, opens⟩ := opening
  refine ⟨⟨logs.noteLines r.lines, ⟨q.2, opens, (List.append_nil _).symm⟩, ?_, ?_, nofun⟩, rfl⟩
  · exact State.noteLines_procedural r.lines q.1
  · rw [State.noteLines_messages, TurnResult.entries, proceduralEntries_messages]

/-- The narrator adds one entry at most, at the end. -/
theorem Writes.narrate {g : Session} {message : Option String} {s : State} {r : TurnResult}
    {t : Turn} {p : Session × Turn} {actionId : String} {request : Narration.Request}
    (writes : Writes message s r (g, t)) (untold : t.narrative = none)
    (told : (g.narrate actionId request t).result = .ok p) : Writes message s r p := by
  have adds {n : Narrator} {kind : LogKind} {text : String}
      (sort : kind = .narrative ∨ kind = .error) :
      Writes message s r (addNarrative { g with narrator := some n } t kind text) := by
    obtain ⟨first, opens, entries⟩ := writes.lists.entries
    refine ⟨writes.logs.note kind text none, ⟨first, opens, ?_⟩, writes.lists.procedural,
      writes.lists.messages, fun e same => ?_⟩
    · rw [untold, Option.toList_none, List.append_nil] at entries
      change t.entries ++ _ = _
      rw [entries]
      rfl
    · cases same
      exact sort
  unfold Session.narrate at told
  split at told
  · cases told
    exact writes
  · dsimp only at told
    split at told
    · cases told
      exact ⟨writes.logs, writes.lists⟩
    · cases told
      exact adds (.inl rfl)
    · cases told
      exact adds (.inr rfl)

theorem take_writes {g : Session} {m : Move} {p : Session × Turn}
    (taken : (g.take m).result = .ok p) :
    ∃ r, (m.play g.scenario g.now g.state).result = .ok r ∧
      Writes (m.message? g.scenario) g.state r p := by
  cases m with
  | action id target success =>
    obtain ⟨r, q, played, committed, told⟩ := act_eq_ok.1 taken
    obtain ⟨writes, untold⟩ := commit_writes (Move.play_log played) committed
    exact ⟨r, played, writes.narrate untold told⟩
  | consequences lists =>
    simp only [take, applyConsequences, result_bind _ _ fun _ => steady_ofExcept _,
      result_ofExcept] at taken
    obtain ⟨r, played, committed⟩ := bind_eq_ok.1 taken
    have kept : r.state.log = g.state.log := Move.play_log (m := .consequences lists) played
    exact ⟨r, played, (commit_writes kept (mapError_eq_ok.1 committed)).1⟩

/-- Where an operation leads. One that fails leaves the session as it is. -/
def attempt (g : Session) (now : Timestamp) (op : Operation) : Session :=
  match ({ g with now := now }.perform op).result with
  | .ok p => p.1
  | .error _ => g

/-- Where operations lead, one after the other. -/
def after (g : Session) (ops : List (Timestamp × Operation)) : Session :=
  ops.foldl (fun g e => g.attempt e.1 e.2) g

/-- A session of a scenario of which every log, now and after an undo, is numbered. -/
structure Orderly (sc : Scenario) (g : Session) : Prop where
  scenario : g.scenario = sc
  present : Numbered g.state.log
  past : ∀ s ∈ g.past, Numbered s.log

theorem Orderly.attempt {sc : Scenario} {g : Session} (orderly : Orderly sc g) (now : Timestamp)
    (op : Operation) : Orderly sc (g.attempt now op) := by
  unfold Session.attempt
  split
  · rename_i p done
    cases op with
    | move m =>
      obtain ⟨h, a⟩ := p
      obtain ⟨t, taken, -⟩ := perform_move_eq_ok.1 done
      obtain ⟨r, -, -, took⟩ := take_eq_ok taken
      obtain ⟨r', -, writes⟩ := take_writes taken
      refine ⟨took.scenario.trans orderly.scenario, writes.logs.numbered orderly.present, ?_⟩
      intro s mem
      rw [took.past] at mem
      obtain rfl | old := mem_keep mem
      · exact orderly.present
      · exact orderly.past s old
    | undo =>
      cases done
      unfold Session.undo
      split
      · exact ⟨orderly.scenario, orderly.present, orderly.past⟩
      · rename_i s rest past
        have each := orderly.past
        change g.past = s :: rest at past
        rw [past, List.forall_mem_cons] at each
        exact ⟨orderly.scenario, each.1, each.2⟩
    | describe situation text =>
      cases done
      exact ⟨orderly.scenario, orderly.present, orderly.past⟩
  · exact orderly

theorem Orderly.after {sc : Scenario} {g : Session} (orderly : Orderly sc g)
    (ops : List (Timestamp × Operation)) : Orderly sc (g.after ops) := by
  induction ops generalizing g with
  | nil => exact orderly
  | cons e rest ih => exact ih (orderly.attempt e.1 e.2)

/-- In a session from the start of a scenario, whatever is done, failed, told and undone on the way,
the log has the numbers from one on without a gap. Every turn from there leaves the log as it was
with the entries of the turn behind it, in the order in which the turn lists them. -/
theorem log_grows_by_turns {sc : Scenario} {player : Option Player} {limit : Option Int}
    {narrator : Option Narrator} {now : Timestamp} {g : Session}
    (start : resume sc (sc.start player) limit narrator now = .ok g)
    (ops : List (Timestamp × Operation)) :
    Numbered (g.after ops).state.log ∧
      ∀ later m h t, ({ g.after ops with now := later }.take m).result = .ok (h, t) →
        h.state.log = (g.after ops).state.log ++ t.entries ∧
        ∃ r, (m.play sc later (g.after ops).state).result = .ok r ∧
          Lists (m.message? sc) (g.after ops).state r t := by
  obtain ⟨l, -, rfl⟩ := resume_eq_ok start
  have fresh : Orderly sc ⟨sc, sc.start player, [], l, narrator, now⟩ :=
    ⟨rfl, rfl, fun s none => absurd none List.not_mem_nil⟩
  have orderly := fresh.after ops
  refine ⟨orderly.present, fun later m h t taken => ?_⟩
  obtain ⟨r, played, writes⟩ := take_writes taken
  dsimp only at played writes
  rw [orderly.scenario] at played writes
  exact ⟨writes.logs.grown, r, played, writes.lists⟩

/-- A turn that is told and undone, consequences that cannot be read, and a turn at which the voice
fails. -/
def splashes : List (Timestamp × Operation) := [
    (noon, .move (.action "draw" none true)),
    (noon, .undo),
    (noon, .move (.consequences [[.null]])),
    (noon, .move (.action "draw" none true))]

theorem log_grows_by_turns_well :
    ∃ h t,
      resume well (well.start none) (some 1) (some wellTeller) noon =
        .ok (wellSession (some wellTeller)) ∧
      ({ (wellSession (some wellTeller)).after splashes with now := noon }.take
        (.action "draw" (some "bucket") true)).result = .ok (h, t) ∧
      Numbered ((wellSession (some wellTeller)).after splashes).state.log ∧
      h.state.log = ((wellSession (some wellTeller)).after splashes).state.log ++ t.entries ∧
      h.state.log.map (fun e => (e.id, e.kind)) =
        [(1, .action), (2, .procedural), (3, .error), (4, .action), (5, .procedural)] := by
  have start : resume well (well.start none) (some 1) (some wellTeller) noon =
      .ok (wellSession (some wellTeller)) := rfl
  obtain ⟨numbered, grows⟩ := log_grows_by_turns start splashes
  have drawn : ∃ h t, ({ (wellSession (some wellTeller)).after splashes with now := noon }.take
      (.action "draw" (some "bucket") true)).result = .ok (h, t) ∧
      h.state.log.map (fun e => (e.id, e.kind)) =
        [(1, .action), (2, .procedural), (3, .error), (4, .action), (5, .procedural)] :=
    ⟨_, _, rfl, rfl⟩
  obtain ⟨h, t, taken, log⟩ := drawn
  exact ⟨h, t, start, taken, numbered, (grows noon _ h t taken).1, log⟩

end Session

end Storyworld
