import Storyworld.State.Scope
import Storyworld.Text.Cut

/-!
Effects at work on a state. Counters and tracks are a fixed set: an effect changes values of keys
that are there and never adds one. An effect that cannot be understood changes nothing and leaves
a warning.
-/

namespace Storyworld

/-- The two sides of the first comma, without blanks around them. -/
def splitChange? (raw : String) : Option (List Char × List Char) :=
  (Text.cutAt ',' raw.toList).map fun p => (Text.trim p.1, Text.trim p.2)

/-- A path and a whole number to add there. -/
def amountOf? (raw : String) : Option (List Char × Int) :=
  (splitChange? raw).bind fun p => (Decimal.readWhole? p.2).map fun n => (p.1, n)

/-- What a counter is set to: a flag, or a number that is finite. -/
def counterOf? (raw : List Char) : Option Counter :=
  let name := Decimal.lowerAscii raw
  if name = "true" then some (.flag true)
  else if name = "false" then some (.flag false)
  else
    match Decimal.readWhole? raw with
    | some i => some (.number (.int i))
    | none =>
      match Decimal.readFloat? raw with
      | some x => if Decimal.isFinite x then some (.number (.float x)) else none
      | none => none

def capped (cap : Option Number) (v : Number) : Number :=
  match cap with
  | some limit => if v.gt limit then limit else v
  | none => v

def Counter.capped (cap : Option Number) : Counter → Counter
  | .flag b => .flag b
  | .number n => .number (Storyworld.capped cap n)

namespace State

def setCounter (s : State) (key : String) (c : Counter) : State :=
  { s with counters := putEntry key c s.counters }

def setTrack (s : State) (key : String) (t : Track) : State :=
  { s with tracks := putEntry key t s.tracks }

/-- Adds to a counter that holds a number. -/
def addToCounter (s : State) (key : String) (delta : Int) (cap : Option Number) :
    Except Fault State :=
  match lookupLast key s.counters with
  | some (.number n) => do return s.setCounter key (.number (capped cap (← n.add (.int delta))))
  | _ => .ok s

/-- Moves a track and keeps it within its bounds. -/
def shiftTrack (s : State) (key : String) (delta : Int) (cap : Option Number) :
    Except Fault State :=
  match lookupLast key s.tracks with
  | some t => do
    let v ← t.value.add (.int delta)
    return s.setTrack key { t with value := t.clamp (capped cap v) }
  | none => .ok s

def learnTarget (s : State) (name : String) : State :=
  if s.knownTargets.contains name then s else { s with knownTargets := s.knownTargets ++ [name] }

def doAdd (s : State) (raw : String) (cap : Option Number) : Noting Fault State :=
  match amountOf? raw with
  | none => do
    warn ("Malformed add effect " ++ Text.quoted raw)
    return s
  | some (path, delta) =>
    let (area, key) := Text.partAt '.' path
    let key := String.ofList key
    if String.ofList area = "counters" then Noting.ofExcept (s.addToCounter key delta cap)
    else if String.ofList area = "tracks" then Noting.ofExcept (s.shiftTrack key delta cap)
    else do
      warn ("add effect targets unsupported path " ++ Text.quoted (String.ofList path))
      return s

def setCounterTo (s : State) (key : String) (raw : List Char) (cap : Option Number) :
    Noting Fault State :=
  match lookupLast key s.counters with
  | none => pure s
  | some _ =>
    match counterOf? raw with
    | some c => pure (s.setCounter key (c.capped cap))
    | none => do
      warn ("set effect value " ++ Text.quoted (String.ofList raw) ++ " for counters." ++ key ++
        " is not a boolean or finite number")
      return s

def doSet (s : State) (raw : String) (cap : Option Number) : Noting Fault State :=
  match splitChange? raw with
  | none => do
    warn ("Malformed set effect " ++ Text.quoted raw)
    return s
  | some (path, v) =>
    if String.ofList path = "next_situation" then
      pure { s with nextSituation := some (String.ofList v) }
    else if String.ofList path = "route" then pure { s with route := some (String.ofList v) }
    else
      let (area, key) := Text.partAt '.' path
      if String.ofList area = "counters" then s.setCounterTo (String.ofList key) v cap
      else do
        warn ("set effect targets unsupported path " ++ Text.quoted (String.ofList path))
        return s

def doTrack (s : State) (raw : String) (cap : Option Number) : Noting Fault State :=
  match amountOf? raw with
  | none => do
    warn ("Malformed track effect " ++ Text.quoted raw)
    return s
  | some (key, delta) => Noting.ofExcept (s.shiftTrack (String.ofList key) delta cap)

def doAction (s : State) (a : Action) (cap : Option Number) : Noting Fault State :=
  match a with
  | .add raw => s.doAdd raw cap
  | .set raw => s.doSet raw cap
  | .track raw => s.doTrack raw cap
  | .log _ | .secret _ | .agreement _ => pure s
  | .giveItem item => pure { s with player := s.player.give item }
  | .removeItem id => pure { s with player := s.player.removeItem id }
  | .addKnownTarget name => pure (s.learnTarget name)

/-- Applies one effect if its guard holds. Lines of the story are left out unless `narrative`. The
lines of the effect are returned beside the state. -/
def applyEffect (narrative : Bool) (e : Effect) (s : State) :
    Noting Fault (State × List String) := do
  if !(← s.allows e.guard?) then return (s, [])
  match e.action? with
  | none => do
    warn ("Effect has no recognised action key: " ++ shownNames e.writtenActions)
    return (s, [])
  | some a => do
    let lines := if narrative then a.line?.toList else []
    return (← s.doAction a e.cap?, lines)

/-- Applies effects in order; later guards see what earlier effects have changed. -/
def applyEffects (narrative : Bool) : List Effect → State → Noting Fault (State × List String)
  | [], s => pure (s, [])
  | e :: rest, s => do
    let (s, lines) ← s.applyEffect narrative e
    let (s, more) ← applyEffects narrative rest s
    return (s, lines ++ more)

end State

end Storyworld
