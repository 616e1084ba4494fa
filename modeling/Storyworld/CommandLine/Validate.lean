import Storyworld.Check.Document
import Storyworld.CommandLine.Shell

/-!
The command that checks documents. Its exit status is 1 if a document cannot be read or has errors,
and on demand also if it has warnings.
-/

namespace Storyworld.CommandLine.Validate

open Console

def command : Command where
  specs := [⟨["-h", "--help"], .help, false⟩, ⟨["--strict"], .switch, false⟩]
  takesFiles := true

def help (program : String) : String :=
  String.join ([
    "usage: " ++ program ++ " [-h] [--strict] files [files ...]",
    "",
    "Validate scenario rule JSON files.",
    "",
    "positional arguments:",
    "  files       Rule document(s) to check",
    "",
    "options:",
    "  -h, --help  show this help message and exit",
    "  --strict    Treat warnings as failures"].map (· ++ "\n"))

/-- The text of an issue that is not about the content. -/
def complain (message : String) : Console Bool := do
  say ("  [error] " ++ message)
  return false

/-- Prints the issues of a document; tells whether it passes. -/
def checkEntries (strict : Bool) (doc : Entries) : Console Bool := do
  match Check.document doc with
  | .error f => throw (.fault f)
  | .ok [] =>
    say "  OK"
    return true
  | .ok issues =>
    let warnings := Check.warningCount issues
    sayAll (issues.map fun i => .ok ("  " ++ i.text))
    say ("  " ++ (issues.length - warnings).repr ++ " error(s), " ++ warnings.repr ++
      " warning(s)")
    return !(Check.hasErrors issues || strict && warnings != 0)

/-- The value in a file. A text that is no document is told apart from what stops the command. -/
def readValue (files : Files) (p : Path) : Except Mishap (Except String Value) :=
  match files.read p with
  | .error e =>
    match e.cause with
    | .nullInName => .error (.file e)
    | _ => .ok (.error e.message)
  | .ok text =>
    match Json.readDocument text with
    | .error (.misread m) => .ok (.error m.message)
    | .error (.fault f) => .error (.fault f)
    | .ok v => .ok (.ok v)

def checkFile (strict : Bool) (p : Path) : Console Bool := do
  say (p.text ++ ":")
  match readValue (← files) p with
  | .error e => throw e
  | .ok (.error message) => complain ("could not read file: " ++ message)
  | .ok (.ok (.mapping doc)) => checkEntries strict doc
  | .ok (.ok _) => complain "a rule document must be a JSON object"

/-- Checks all files; tells whether all pass. -/
def checkFiles (strict : Bool) : List Path → Console Bool
  | [] => return true
  | p :: rest => do
    let passes ← checkFile strict p
    let others ← checkFiles strict rest
    return passes && others

def run (program : String) (args : List String) : Console Nat :=
  command.serve (help program) args fun a => do
    let passes ← checkFiles (a.has "--strict") (a.files.map .ofText)
    return if passes then 0 else 1

end Storyworld.CommandLine.Validate
