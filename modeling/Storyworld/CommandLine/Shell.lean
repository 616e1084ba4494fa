import Storyworld.CommandLine.Arguments
import Storyworld.Mishap
import Storyworld.Notice

/-!
What a command works on: the files, what it has printed, and the notices. All three stay as they are
when the command fails.
-/

namespace Storyworld.CommandLine

structure Shell where
  files : Files
  printed : String
  notices : List Notice

abbrev Console := ExceptT Mishap (StateM Shell)

namespace Console

/-- Prints a text as it is. -/
def put (text : String) : Console Unit :=
  modify fun s => { s with printed := s.printed ++ text }

/-- Prints a line. -/
def say (line : String) : Console Unit :=
  put (line ++ "\n")

/-- Prints lines up to the first that cannot be written. -/
def sayAll : List (Except Fault String) → Console Unit
  | [] => return ()
  | .ok line :: rest => do
    say line
    sayAll rest
  | .error f :: _ => throw (.fault f)

def files : Console Files := do return (← get).files

def setFiles (f : Files) : Console Unit :=
  modify fun s => { s with files := f }

/-- A computation with notices, which go to those of the shell. -/
def perform {α : Type} (x : Noting Mishap α) : Console α := fun s =>
  let (r, notices) := (x.run).run s.notices
  (r, { s with notices := notices })

end Console

/-- Runs a command on its arguments and gives its exit status: that of the work, 0 after help, 2 for
arguments that were refused. -/
def Command.serve (c : Command) (help : String) (args : List String)
    (work : Arguments → Console Nat) : Console Nat :=
  match c.parse args with
  | .run a => work a
  | .help => do
    Console.put help
    return 0
  | .refused => return 2

end Storyworld.CommandLine
