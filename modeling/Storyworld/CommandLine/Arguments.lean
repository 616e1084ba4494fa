import Storyworld.Text.Cut
import Storyworld.Text.Digit

/-!
Arguments of a command line. Options may be shortened as long as they stay unique, values may follow
an equals sign, and two dashes end the options. Files are taken from the first run of arguments that
are not options.
-/

namespace Storyworld.CommandLine

inductive Kind where
  | help
  | switch
  | value
  deriving Repr, DecidableEq

structure Spec where
  /-- The main name comes last. -/
  names : List String
  kind : Kind
  /-- Options that exclude each other have the same mark. -/
  exclusive : Bool
  deriving Repr, DecidableEq

def Spec.name (s : Spec) : String := s.names.getLastD ""

structure Command where
  specs : List Spec
  takesFiles : Bool

structure Arguments where
  values : List (String × String)
  switches : List String
  files : List String
  deriving Repr, DecidableEq

def Arguments.value? (a : Arguments) (name : String) : Option String := a.values.lookup name

def Arguments.has (a : Arguments) (name : String) : Bool := a.switches.contains name

inductive Outcome where
  | run (a : Arguments)
  | help
  | refused
  deriving Repr, DecidableEq

/-- A text that an option brings along in its own argument. -/
structure Given where
  text : String
  afterEquals : Bool
  deriving Repr, DecidableEq

/-- What an argument is, seen alone. -/
inductive Token where
  | plain (text : String)
  | option (s : Spec) (given : Option Given)
  | unknown
  /-- The two dashes that end the options. -/
  | dashes
  deriving Repr, DecidableEq

def startsWith (start text : String) : Bool :=
  (Text.stripLeading start.toList text.toList).isSome

def Command.find? (c : Command) (name : String) : Option Spec :=
  c.specs.find? fun s => s.names.contains name

/-- The text before an equals sign and the text after it. -/
def splitValue (arg : String) : String × Option Given :=
  match Text.cutAt '=' arg.toList with
  | some (a, b) => (String.ofList a, some ⟨String.ofList b, true⟩)
  | none => (arg, none)

/-- All options that an argument may be short for. -/
def Command.candidates (c : Command) (arg : String) : List Token :=
  let named (test : String → Bool) (given : Option Given) : List Token :=
    c.specs.flatMap fun s => (s.names.filter test).map fun _ => .option s given
  if startsWith "--" arg then
    let (start, given) := splitValue arg
    named (startsWith start) given
  else
    let cs := arg.toList
    named (· == String.ofList (cs.take 2)) (some ⟨String.ofList (cs.drop 2), false⟩) ++
      named (startsWith arg) none

/-- A negative number. -/
def isNegative (arg : String) : Bool :=
  match arg.toList with
  | '-' :: cs =>
    match Text.cutAt '.' cs with
    | some (a, b) => a.all Text.isDigit && !b.isEmpty && b.all Text.isDigit
    | none => !cs.isEmpty && cs.all Text.isDigit
  | _ => false

/-- What an argument is; none if it is short for several options. -/
def Command.token? (c : Command) (arg : String) : Option Token :=
  if !startsWith "-" arg || arg = "-" then some (.plain arg)
  else
    match c.find? arg with
    | some s => some (.option s none)
    | none =>
      let (name, given) := splitValue arg
      match given, c.find? name with
      | some v, some s => some (.option s (some v))
      | _, _ =>
        match c.candidates arg with
        | [t] => some t
        | _ :: _ :: _ => none
        | [] =>
          if isNegative arg || arg.toList.contains ' ' then some (.plain arg) else some .unknown

def Command.tokens? (c : Command) : List String → Option (List Token)
  | [] => some []
  | arg :: rest =>
    if arg = "--" then some (.dashes :: rest.map .plain)
    else
      match c.token? arg, c.tokens? rest with
      | some t, some ts => some (t :: ts)
      | _, _ => none

/-- The arguments so far. Options that were given count for the exclusive ones. -/
structure Progress where
  arguments : Arguments
  given : List Spec
  filesLeft : Bool
  strange : Bool

def textOf : Token → List String
  | .plain s => [s]
  | _ => []

/-- A run of arguments that are not options: they are the files, or there is no place for them. -/
def Progress.takeRun (p : Progress) (run : List Token) : Progress :=
  let texts := run.flatMap textOf
  if run.isEmpty then p
  else if p.filesLeft && !texts.isEmpty then
    { p with arguments := { p.arguments with files := texts }, filesLeft := false }
  else { p with strange := true }

inductive Step where
  | go (p : Progress)
  | help
  | refused

/-- One option with its value if it takes one. -/
def Progress.take (p : Progress) (s : Spec) (value : String) : Step :=
  if s.exclusive && p.given.any fun o => o.exclusive && o ≠ s then .refused
  else
    let p := { p with given := s :: p.given }
    match s.kind with
    | .help => .help
    | .switch => .go { p with
        arguments := { p.arguments with switches := s.name :: p.arguments.switches } }
    | .value => .go { p with
        arguments := { p.arguments with values := (s.name, value) :: p.arguments.values } }

/-- The options that one argument stands for, with their values, and whether there is a rest of it
that is no option. -/
structure Expansion where
  options : List (Spec × String)
  strange : Bool

/-- Short options written together behind one dash, the first of which is known. -/
def Command.chain? (c : Command) (s : Spec) : List Char → Option Expansion
  | [] => some ⟨[(s, "")], false⟩
  | x :: cs =>
    if s.kind = .value then
      some ⟨[(s, String.ofList (if x = '=' then cs else x :: cs))], false⟩
    else if x = '=' ∨ x = '-' then none
    else
      match c.find? (String.ofList ['-', x]) with
      | some t => (c.chain? t cs).map fun e => { e with options := (s, "") :: e.options }
      | none => some ⟨[(s, "")], true⟩

/-- The options that one argument stands for, when it brings a text along. -/
def Command.expand? (c : Command) (s : Spec) (given : Given) : Option Expansion :=
  if s.kind = .value then some ⟨[(s, given.text)], false⟩
  else if given.afterEquals then none
  else c.chain? s given.text.toList

def Progress.takeAll (p : Progress) : List (Spec × String) → Step
  | [] => .go p
  | (s, v) :: rest =>
    match p.take s v with
    | .go p => p.takeAll rest
    | r => r

def Command.finish (p : Progress) : Outcome :=
  if p.filesLeft || p.strange then .refused else .run p.arguments

/-- Works through the tokens; `run` holds those since the last option. -/
def Command.work (c : Command) (p : Progress) (run : List Token) : List Token → Outcome
  | [] => finish (p.takeRun run)
  | t :: rest =>
    match t with
    | .plain _ | .dashes => c.work p (run ++ [t]) rest
    | .unknown => c.work { p.takeRun run with strange := true } [] rest
    | .option s given =>
      let p := p.takeRun run
      match given, s.kind, rest with
      | some g, _, rest =>
        match c.expand? s g with
        | none => .refused
        | some e =>
          match { p with strange := p.strange || e.strange }.takeAll e.options with
          | .go p => c.work p [] rest
          | .help => .help
          | .refused => .refused
      | none, .value, .plain v :: rest =>
        match p.take s v with
        | .go p => c.work p [] rest
        | .help => .help
        | .refused => .refused
      | none, .value, _ => .refused
      | none, _, rest =>
        match p.take s "" with
        | .go p => c.work p [] rest
        | .help => .help
        | .refused => .refused

def Command.parse (c : Command) (args : List String) : Outcome :=
  match c.tokens? args with
  | some ts => c.work ⟨⟨[], [], []⟩, [], c.takesFiles, false⟩ [] ts
  | none => .refused

end Storyworld.CommandLine
