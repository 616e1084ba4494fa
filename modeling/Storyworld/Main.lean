import Std.Time.DateTime
import Storyworld.CommandLine.Play
import Storyworld.CommandLine.Validate

/-!
The program: `validate` checks documents, `play` plays a scenario at the terminal. There is no
service for narration here, so a narrator stays silent.
-/

namespace Storyworld.CommandLine

def clockTime : IO Timestamp := do
  let t ← Std.Time.Timestamp.now
  let d := Std.Time.PlainDateTime.ofWallTime (t.toWallTime .zero)
  return ⟨Int.toNat d.date.year, d.date.month.val.toNat, d.date.day.val.toNat,
    d.time.hour.val.toNat, d.time.minute.val.toNat, d.time.second.val.toNat,
    d.time.nanosecond.val.toNat / 1000, some 0⟩

/-- The files with the given paths, as far as they can be read. -/
def gather (paths : List String) : IO Files :=
  paths.foldlM collect .empty
where
  collect (files : Files) (p : String) : IO Files := do
    match ← (IO.FS.readFile p).toBaseIO with
    | .ok text => return files.place (.ofText p) text
    | .error _ => return files

/-- Runs a part of a command and shows what it has printed and noticed. -/
def perform {α : Type} (files : Files) (part : Console α) : IO (Except Mishap α × Files) := do
  let (r, shell) := (part.run).run ⟨files, "", []⟩
  let output ← IO.getStdout
  output.putStr shell.printed
  output.flush
  for n in shell.notices do
    IO.eprintln (n.level.name ++ ": " ++ n.message)
  return (r, shell.files)

/-- The folder of a path taken as existing; whether it does shows when the file is written. -/
def withFolder (files : Files) (p : String) : Files :=
  (files.makeFolders (Path.ofText p).parent).1

def fail (m : Mishap) : IO UInt32 := do
  IO.eprintln (m.message.getD "The document cannot be used.")
  return 1

/-- The lines of the player, up to the end of the game. -/
partial def playLines (files : Files) (g : Session) : IO (Except Mishap Session) := do
  if g.isEnded then return .ok g
  let _ ← perform files Play.ask
  let line ← (← IO.getStdin).getLine
  if line.isEmpty then return .ok g
  match (← perform files (Play.answer g line)).1 with
  | .ok (some g) => playLines files g
  | .ok none => return .ok g
  | .error m => return .error m

def play (a : Arguments) : IO UInt32 := do
  let saved := (a.value? "--save").toList
  let files ← gather ((a.value? "--rules").toList ++ (a.value? "--load").toList)
  let files := saved.foldl withFolder files
  let key ← IO.getEnv "ANTHROPIC_API_KEY"
  match (← perform files (Play.start (← clockTime) key [] a)).1 with
  | .error m => fail m
  | .ok g =>
    match ← playLines files g with
    | .error m => fail m
    | .ok g =>
      match ← perform files (Play.finish [] a g) with
      | (.error m, _) => fail m
      | (.ok _, files) =>
        for p in saved do
          match files.read (.ofText p) with
          | .ok text => IO.FS.writeFile p text
          | .error e => throw (IO.userError e.message)
        return 0

def commands : String :=
  "storyworld validate [--strict] files ...\nstoryworld play [options]"

end Storyworld.CommandLine

open Storyworld CommandLine

def main (args : List String) : IO UInt32 := do
  match args with
  | "validate" :: args =>
    let files ← gather args
    match (← perform files (Validate.run "storyworld validate" args)).1 with
    | .ok status => return status.toUInt32
    | .error m => fail m
  | "play" :: args =>
    match Play.command.parse args with
    | .run a => play a
    | .help => do
      IO.print (Play.help "storyworld play")
      return 0
    | .refused => return 2
  | _ => do
    IO.eprintln commands
    return 2
