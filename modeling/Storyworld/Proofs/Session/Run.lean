import Storyworld.Proofs.Results
import Storyworld.Proofs.Turn.Records
import Storyworld.Proofs.Turn.Steady
import Storyworld.Session

/-!
Runs of a session: moves of the player and of the world, undoing, and scene texts, each at its time.
A run keeps a journal of its steps; from the journal follow the turns that stand, which are those
that have not been undone.
-/

namespace Storyworld

/-- A turn that can be taken: an action of the player, or consequences from outside the rules. -/
inductive Move where
  | action (id : String) (target : Option String) (success : Bool)
  | consequences (lists : List (List Value))

/-- The turn as the rules alone have it, without a session. -/
def Move.play (sc : Scenario) (now : Timestamp) (s : State) : Move → Noting Mishap TurnResult
  | action id target success => (s.act sc now id target success).adapt .fault
  | consequences lists =>
    (s.applyConsequences sc now lists).adapt Session.TurnFailure.toMishap

namespace Session

open Noting

inductive Operation where
  | move (m : Move)
  | undo
  | describe (situation text : String)

/-- What a player learns from an operation, apart from the state. -/
inductive Answer where
  | turn (moved : Bool) (lines : List String)
  | undone (was : Bool)
  | described
  deriving DecidableEq

def answerOf (t : Turn) : Answer :=
  .turn t.moved (t.procedural.map LogEntry.message)

def take (g : Session) : Move → Noting Mishap (Session × Turn)
  | .action id target success => g.act id target success
  | .consequences lists => g.applyConsequences lists

def perform (g : Session) : Operation → Noting Mishap (Session × Answer)
  | .move m => do
    let (g, t) ← g.take m
    return (g, answerOf t)
  | .undo => pure (g.undo.1, .undone g.undo.2)
  | .describe situation text => pure (g.describe situation text, .described)

/-- A step of a run, with the state that it started from. -/
structure Step where
  before : State
  now : Timestamp
  operation : Operation
  answer : Answer

/-- Performs operations in order, each at its time. -/
def run : List (Timestamp × Operation) → Session → Noting Mishap (Session × List Step)
  | [], g => pure (g, [])
  | (now, op) :: rest, g => do
    let (h, a) ← { g with now := now }.perform op
    let (h, steps) ← run rest h
    return (h, ⟨g.state, now, op, a⟩ :: steps)

/-- A turn that was taken, with the state before it. -/
structure Taken where
  before : State
  now : Timestamp
  move : Move

/-- A well to draw from; each time the story tells so. -/
def well : Scenario where
  version := 1
  id := "well"
  title := "The well"
  description := ""
  language := .en
  theme := none
  actions := [("draw", ⟨"Draw", "Drop", none⟩)]
  opening := ⟨"yard", [("water", .number (.int 0))], []⟩
  tracks := []
  situations := [("yard", {
    label := "Yard"
    description := none
    allowedActions := ["draw"]
    rules := [{
      trigger := ⟨"draw", none, none, none⟩
      effects := [⟨[.action (.add "counters.water,1")]⟩, ⟨[.action (.log "Cold water.")]⟩]
      failure := none }]
    enterIf := none
    ending := false })]
  hints := none

def noon : Timestamp := ⟨2026, 1, 2, 12, 0, 0, 0, none⟩

/-- A session at the well, with room to undo one turn. -/
def wellSession (narrator : Option Narrator) : Session :=
  ⟨well, well.start none, [], some 1, narrator, noon⟩

/-- Drawing twice, with words about the yard in between. -/
def drawTwice : List (Timestamp × Operation) := [
    (noon, .move (.action "draw" none true)),
    (noon, .describe "yard" "It rains."),
    (noon, .move (.action "draw" (some "bucket") true))]

/-- A turn stands until an undo takes it back; the latest one comes first. -/
def stand (kept : List Taken) (e : Step) : List Taken :=
  match e.operation, e.answer with
  | .move m, _ => ⟨e.before, e.now, m⟩ :: kept
  | .undo, .undone true => kept.tail
  | _, _ => kept

/-- The turns of a run that have not been undone, the latest first. -/
def standing (steps : List Step) : List Taken :=
  steps.foldl stand []

theorem resume_eq_ok {sc : Scenario} {s : State} {limit : Option Int} {narrator : Option Narrator}
    {now : Timestamp} {g : Session} (start : resume sc s limit narrator now = .ok g) :
    ∃ l : Option Nat, limit = l.map Int.ofNat ∧ g = ⟨sc, s, [], l, narrator, now⟩ := by
  unfold resume at start
  split at start
  · cases start
    exact ⟨none, rfl, rfl⟩
  · rename_i n
    cases start
    exact ⟨some n, rfl, rfl⟩
  · nomatch start

theorem steady_narrate (g : Session) (actionId : String) (request : Narration.Request)
    (t : Turn) : Steady (g.narrate actionId request t) := by
  unfold narrate
  split
  · exact steady_pure _
  · dsimp only
    split
    · exact steady_pure _
    · exact steady_pure _
    · exact (steady_report _).bind fun _ => steady_pure _

theorem steady_take (g : Session) (m : Move) : Steady (g.take m) := by
  cases m with
  | action id target success =>
    exact (State.steady_act ..).adapt.bind fun r =>
      (steady_ofExcept _).bind fun p => steady_narrate ..
  | consequences lists =>
    exact (State.steady_applyConsequences ..).adapt.bind fun r => steady_ofExcept _

theorem steady_perform (g : Session) (op : Operation) : Steady (g.perform op) := by
  cases op with
  | move m => exact (steady_take g m).bind fun _ => steady_pure _
  | undo => exact steady_pure _
  | describe situation text => exact steady_pure _

theorem steady_run (ops : List (Timestamp × Operation)) (g : Session) : Steady (g.run ops) := by
  induction ops generalizing g with
  | nil => exact steady_pure _
  | cons e rest ih =>
    exact (steady_perform ..).bind fun p => (ih p.1).bind fun _ => steady_pure _

theorem perform_move_eq_ok {g h : Session} {m : Move} {a : Answer} :
    (g.perform (.move m)).result = .ok (h, a) ↔
      ∃ t, (g.take m).result = .ok (h, t) ∧ a = answerOf t := by
  rw [perform, result_bind _ _ fun _ => steady_pure _, bind_eq_ok]
  constructor
  · rintro ⟨⟨g', t⟩, ht, he⟩
    cases he
    exact ⟨t, ht, rfl⟩
  · rintro ⟨t, ht, rfl⟩
    exact ⟨(h, t), ht, rfl⟩

theorem run_cons_eq_ok {g h : Session} {now : Timestamp} {op : Operation}
    {rest : List (Timestamp × Operation)} {steps : List Step} :
    (g.run ((now, op) :: rest)).result = .ok (h, steps) ↔
      ∃ g' a more, (perform { g with now := now } op).result = .ok (g', a) ∧
        (g'.run rest).result = .ok (h, more) ∧ steps = ⟨g.state, now, op, a⟩ :: more := by
  have steady (p : Session × Answer) :
      Steady (run rest p.1 >>= fun q =>
        pure (q.1, (⟨g.state, now, op, p.2⟩ : Step) :: q.2)) :=
    (steady_run rest p.1).bind fun _ => steady_pure _
  rw [run, result_bind _ _ steady, bind_eq_ok]
  constructor
  · rintro ⟨⟨g', a⟩, hp, ran⟩
    rw [result_bind _ _ fun _ => steady_pure _] at ran
    obtain ⟨⟨h', more⟩, hq, he⟩ := bind_eq_ok.1 ran
    cases he
    exact ⟨g', a, more, hp, hq, rfl⟩
  · rintro ⟨g', a, more, hp, hq, rfl⟩
    refine ⟨(g', a), hp, ?_⟩
    rw [result_bind _ _ fun _ => steady_pure _]
    exact bind_eq_ok.2 ⟨(h, more), hq, rfl⟩

end Session

theorem Move.steady_play (sc : Scenario) (now : Timestamp) (s : State) (m : Move) :
    Noting.Steady (m.play sc now s) := by
  cases m with
  | action id target success => exact (State.steady_act ..).adapt
  | consequences lists => exact (State.steady_applyConsequences ..).adapt

end Storyworld
