import Storyworld.Proofs.Session.Turns

/-!
Undoing is exact and bounded. How many turns can be taken back follows from the operations alone,
and an undo restores the whole state from before the latest turn that stands, its log included.
-/

namespace Storyworld.Session

open Noting

/-- How an operation changes the number of turns that can be taken back. -/
def deeper (limit : Option Nat) (d : Nat) : Operation → Nat
  | .move _ =>
    match limit with
    | some m => min (d + 1) m
    | none => d + 1
  | .undo => d - 1
  | .describe _ _ => d

/-- How many turns can be taken back after some operations. -/
def depthAfter (limit : Option Nat) (ops : List Operation) : Nat :=
  ops.foldl (deeper limit) 0

/-- The kept states are those from before the latest `d` turns that stand. -/
structure Kept (limit : Option Nat) (ts : List Taken) (d : Nat) (g : Session) : Prop where
  limit : g.limit = limit
  past : g.past = (ts.take d).map Taken.before
  depth : d ≤ ts.length

theorem Kept.keep {limit : Option Nat} {ts : List Taken} {d : Nat} {g : Session}
    (kept : Kept limit ts d g) (t : Taken) (m : Move) :
    g.keep t.before = ((t :: ts).take (deeper limit d (.move m))).map Taken.before := by
  have whole : t.before :: g.past = ((t :: ts).take (d + 1)).map Taken.before := by
    rw [kept.past]
    rfl
  unfold Session.keep
  rw [kept.limit, whole]
  cases limit with
  | none => rfl
  | some n =>
    dsimp only [deeper]
    rw [← List.map_take, List.take_take, Nat.min_comm]

theorem Kept.move {limit : Option Nat} {ts : List Taken} {d : Nat} {g h : Session} {m : Move}
    {a : Answer} (kept : Kept limit ts d g) (done : (g.perform (.move m)).result = .ok (h, a)) :
    Kept limit (⟨g.state, g.now, m⟩ :: ts) (deeper limit d (.move m)) h := by
  obtain ⟨t, ht, -⟩ := perform_move_eq_ok.1 done
  obtain ⟨r, -, -, took⟩ := take_eq_ok ht
  refine ⟨took.limit.trans kept.limit, ?_, ?_⟩
  · rw [took.past]
    exact kept.keep ⟨g.state, g.now, m⟩ m
  · have := kept.depth
    cases limit <;> simp only [deeper, List.length_cons] <;> omega

theorem Kept.undo_zero {limit : Option Nat} {ts : List Taken} {g : Session}
    (kept : Kept limit ts 0 g) : g.undo = (g, false) := by
  have none : g.past = [] := kept.past
  rw [undo, none]

theorem Kept.undo_succ {limit : Option Nat} {ts : List Taken} {d : Nat} {g : Session}
    (kept : Kept limit ts (d + 1) g) :
    ∃ t earlier, ts = t :: earlier ∧
      g.undo = ({ g with state := t.before, past := (earlier.take d).map Taken.before }, true) := by
  have depth := kept.depth
  cases ts with
  | nil => simp at depth
  | cons t earlier =>
    have past : g.past = t.before :: (earlier.take d).map Taken.before := kept.past
    exact ⟨t, earlier, rfl, by rw [undo, past]⟩

theorem Kept.perform {limit : Option Nat} {ts : List Taken} {d : Nat} {g h : Session}
    {op : Operation} {a : Answer} (kept : Kept limit ts d g)
    (done : (g.perform op).result = .ok (h, a)) :
    Kept limit (stand ts ⟨g.state, g.now, op, a⟩) (deeper limit d op) h := by
  cases op with
  | move m => exact kept.move done
  | undo =>
    cases done
    cases d with
    | zero =>
      rw [kept.undo_zero]
      exact kept
    | succ d =>
      obtain ⟨t, earlier, rfl, hu⟩ := kept.undo_succ
      rw [hu]
      exact ⟨kept.limit, rfl, Nat.le_of_succ_le_succ kept.depth⟩
  | describe situation text =>
    cases done
    exact ⟨kept.limit, kept.past, kept.depth⟩

theorem Kept.run {limit : Option Nat} {ops : List (Timestamp × Operation)} {ts : List Taken}
    {d : Nat} {g h : Session} {steps : List Step} (kept : Kept limit ts d g)
    (ran : (g.run ops).result = .ok (h, steps)) :
    Kept limit (steps.foldl stand ts) ((ops.map Prod.snd).foldl (deeper limit) d) h := by
  induction ops generalizing ts d g steps with
  | nil =>
    cases ran
    exact kept
  | cons e rest ih =>
    obtain ⟨now, op⟩ := e
    obtain ⟨g', a, more, hp, hq, rfl⟩ := run_cons_eq_ok.1 ran
    have timed : Kept limit ts d { g with now := now } := ⟨kept.limit, kept.past, kept.depth⟩
    have later := ih (timed.perform hp) hq
    exact later

/-- Undoing is exact and bounded: it succeeds if and only if there is a turn left to take back,
changes nothing if there is none, and else restores the state from before the latest turn that
stands. -/
theorem undo_restores {sc : Scenario} {s : State} {limit : Option Nat}
    {narrator : Option Narrator} {now : Timestamp} {g h : Session}
    {ops : List (Timestamp × Operation)} {steps : List Step}
    (start : resume sc s (limit.map Int.ofNat) narrator now = .ok g)
    (ran : (g.run ops).result = .ok (h, steps)) :
    (h.undo.2 = true ↔ 0 < depthAfter limit (ops.map Prod.snd)) ∧
    (h.undo.2 = false → h.undo.1 = h) ∧
    (h.undo.2 = true → ∃ t earlier, standing steps = t :: earlier ∧
      h.undo.1.state = t.before) := by
  obtain ⟨l, hl, rfl⟩ := resume_eq_ok start
  have limits : l = limit := (Option.map_injective fun _ _ => Int.ofNat.inj) hl.symm
  have kept : Kept limit [] 0 ⟨sc, s, [], l, narrator, now⟩ := ⟨limits, rfl, Nat.le_refl 0⟩
  have later : Kept limit (standing steps) (depthAfter limit (ops.map Prod.snd)) h :=
    kept.run ran
  generalize depthAfter limit (ops.map Prod.snd) = d at later ⊢
  cases d with
  | zero =>
    rw [later.undo_zero]
    exact ⟨by simp, fun _ => rfl, nofun⟩
  | succ d =>
    obtain ⟨t, earlier, hts, hu⟩ := later.undo_succ
    rw [hu]
    exact ⟨by simp, nofun, fun _ => ⟨t, earlier, hts, rfl⟩⟩

/-- With room for one turn, the second of two can be taken back. -/
theorem undo_restores_well :
    ∃ h steps,
      resume well (well.start none) ((some 1).map Int.ofNat) none noon =
        .ok (wellSession none) ∧
      ((wellSession none).run drawTwice).result = .ok (h, steps) ∧
      h.undo.2 = true ∧
      ∃ t earlier, standing steps = t :: earlier ∧ h.undo.1.state = t.before := by
  obtain ⟨⟨h, steps⟩, ran⟩ : ∃ p, ((wellSession none).run drawTwice).result = .ok p := ⟨_, rfl⟩
  have start : resume well (well.start none) ((some 1).map Int.ofNat) none noon =
      .ok (wellSession none) := rfl
  have undone : h.undo.2 = true := (undo_restores start ran).1.2 (by decide)
  exact ⟨h, steps, start, ran, undone, (undo_restores start ran).2.2 undone⟩

end Storyworld.Session
