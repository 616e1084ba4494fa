import Storyworld.Narration.Narrator
import Storyworld.State.Changes
import Storyworld.State.Start

/-!
A session: one game as it is played, with its log, with the earlier states for taking turns back,
and with a narrator if there is one. A turn that fails leaves the session as it was.
-/

namespace Storyworld

structure Session where
  scenario : Scenario
  state : State
  /-- The states before the last turns, the latest first. -/
  past : List State
  /-- How many earlier states are kept, if that is limited. -/
  limit : Option Nat
  narrator : Option Narrator
  now : Timestamp

/-- What a turn of a session has added to the log. -/
structure Turn where
  entries : List LogEntry
  procedural : List LogEntry
  narrative : Option LogEntry
  moved : Bool

namespace State

/-- Adds an entry with the next number. -/
def note (s : State) (kind : LogKind) (message : String) (changes : Option (List Change)) :
    State × LogEntry :=
  let e : LogEntry := ⟨s.nextLogId, kind, message, none, changes⟩
  (s.append e, e)

def noteLines : List String → State → State × List LogEntry
  | [], s => (s, [])
  | line :: rest, s =>
    let (s, e) := s.note .procedural line none
    let (s, es) := noteLines rest s
    (s, e :: es)

end State

namespace Session

def defaultLimit : Int := 50

/-- A session that goes on from a state. -/
def resume (sc : Scenario) (s : State) (limit : Option Int) (narrator : Option Narrator)
    (now : Timestamp) : Except Mishap Session :=
  match limit with
  | none => .ok ⟨sc, s, [], none, narrator, now⟩
  | some (.ofNat n) => .ok ⟨sc, s, [], some n, narrator, now⟩
  | some _ => .error .negativeLimit

def situation? (g : Session) : Option Situation :=
  g.scenario.situation? g.state.situation

def isEnded (g : Session) : Bool :=
  g.scenario.isEnding g.state.situation

/-- The actions that the situation offers and the scenario knows, each once. -/
def actions (g : Session) : List (String × ActionDetail) :=
  match g.situation? with
  | none => []
  | some s => mergeEntries (s.allowedActions.filterMap fun id =>
      (lookupLast id g.scenario.actions).map fun d => (id, d))

def keep (g : Session) (before : State) : List State :=
  match g.limit with
  | some n => (before :: g.past).take n
  | none => before :: g.past

/-- The entry for an action, with the changes that it has made if there are any. -/
def noteAction (g : Session) (message : String) (s : State) : Except Fault (State × LogEntry) := do
  let changes ← changesBetween g.scenario g.state s
  return s.note .action message (if changes.isEmpty then none else some changes)

/-- Takes over the result of a turn and logs it. -/
def commit (g : Session) (message : Option String) (r : TurnResult) :
    Except Fault (Session × Turn) := do
  let (s, first) ← match message with
    | some m => (g.noteAction m r.state).map fun p => (p.1, [p.2])
    | none => pure (r.state, [])
  let (s, lines) := s.noteLines r.lines
  return ({ g with state := s, past := g.keep g.state }, ⟨first ++ lines, lines, none, r.moved⟩)

def actionMessage (sc : Scenario) (actionId : String) (target : Option String) : String :=
  match target.filter (· ≠ "") with
  | some t => sc.actionLabel actionId ++ ": " ++ t
  | none => sc.actionLabel actionId

/-- Adds an entry of the narrator to the session and to the turn. -/
def addNarrative (g : Session) (t : Turn) (kind : LogKind) (message : String) : Session × Turn :=
  let (s, e) := g.state.note kind message none
  ({ g with state := s }, { t with entries := t.entries ++ [e], narrative := some e })

/-- Lets the narrator tell a turn. If that fails the log says so. -/
def narrate (g : Session) (actionId : String) (request : Narration.Request) (t : Turn) :
    Noting Mishap (Session × Turn) :=
  match g.narrator with
  | none => pure (g, t)
  | some n =>
    let (n, told) := n.narrate request
    let g := { g with narrator := some n }
    match told with
    | .ok "" => pure (g, t)
    | .ok s => pure (g.addNarrative t .narrative s)
    | .error e => do
      report ("Narration failed for action " ++ Text.quoted actionId)
      return g.addNarrative t .error ("Narration unavailable: " ++ e.message.getD "")

/-- An action of the player. -/
def act (g : Session) (actionId : String) (target : Option String) (success : Bool) :
    Noting Mishap (Session × Turn) := do
  let r ← (g.state.act g.scenario g.now actionId target success).adapt .fault
  let (h, t) ← Noting.ofExcept
    ((g.commit (some (actionMessage g.scenario actionId target)) r).mapError .fault)
  h.narrate actionId (.ofTurn g.scenario g.state r actionId target) t

def TurnFailure.toMishap : TurnFailure → Mishap
  | .fault f => .fault f
  | .misfits ms => .misfits ms

/-- Consequences from outside the rules. They are not an action and are not told. -/
def applyConsequences (g : Session) (lists : List (List Value)) :
    Noting Mishap (Session × Turn) := do
  let r ← (g.state.applyConsequences g.scenario g.now lists).adapt TurnFailure.toMishap
  Noting.ofExcept ((g.commit none r).mapError .fault)

/-- Takes the last turn back; tells whether there was one. -/
def undo (g : Session) : Session × Bool :=
  match g.past with
  | [] => (g, false)
  | s :: rest => ({ g with state := s, past := rest }, true)

def describe (g : Session) (situation text : String) : Session :=
  { g with state := g.state.describe situation text }

def save (g : Session) (files : Files) (p : Path) : Except Mishap (Files × String) := do
  let text := g.state.toSave (some 2)
  return (← (files.write p text).mapError .file, text)

def loadState (files : Files) (p : Path) : Except Mishap State := do
  let text ← (files.read p).mapError .file
  (State.ofSave text).toExcept.mapError .misfits

/-- The same session with a state from a file, and with no turns to take back. -/
def load (g : Session) (files : Files) (p : Path) : Except Mishap Session := do
  return { g with state := ← loadState files p, past := [] }

end Session

end Storyworld
