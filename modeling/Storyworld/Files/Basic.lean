import Storyworld.Files.Path
import Storyworld.Text.Quoted
import Storyworld.Value

/-!
A tree of folders and text files, and a folder in it from which paths start.
-/

namespace Storyworld

inductive FileCause where
  | notFound
  | taken
  | notFolder
  | isFolder
  | nameTooLong
  | nullInName
  deriving Repr, DecidableEq

def FileCause.message : FileCause → String
  | notFound => "[Errno 2] No such file or directory: "
  | taken => "[Errno 17] File exists: "
  | notFolder => "[Errno 20] Not a directory: "
  | isFolder => "[Errno 21] Is a directory: "
  | nameTooLong => "[Errno 36] File name too long: "
  | nullInName => "embedded null byte"

structure FileError where
  cause : FileCause
  path : String
  deriving Repr, DecidableEq

def FileError.message (e : FileError) : String :=
  match e.cause with
  | .nullInName => e.cause.message
  | c => c.message ++ Text.quoted e.path

/-- The names on the way from the root. -/
abbrev Location := List String

structure Files where
  here : Location
  folders : List Location
  texts : List (Location × String)

namespace Files

/-- An empty folder below the root. -/
def empty : Files :=
  let here := ["games", "table"]
  ⟨here, [[], ["games"], here], []⟩

def isFolder (f : Files) (l : Location) : Bool := f.folders.contains l

def textAt? (f : Files) (l : Location) : Option String := f.texts.lookup l

/-- One step on the way along a path, from a location that has to be a folder. -/
def step (f : Files) (l : Location) (name : String) : Except FileCause Location :=
  if f.isFolder l then
    if 255 < name.utf8ByteSize then .error .nameTooLong
    else .ok (if name = ".." then l.dropLast else l ++ [name])
  else if (f.textAt? l).isSome then .error .notFolder
  else .error .notFound

/-- Paths have fewer bytes than this, names have no more than 255. -/
def pathLimit : Nat := 4096

/-- The location of a path. The last part need not exist. -/
def locate (f : Files) (p : Path) : Except FileError Location :=
  if p.text.toList.contains '\x00' then .error ⟨.nullInName, p.text⟩
  else if pathLimit ≤ p.text.utf8ByteSize then .error ⟨.nameTooLong, p.text⟩
  else
    (p.parts.foldlM (f.step) (if p.absolute then [] else f.here)).mapError fun c => ⟨c, p.text⟩

/-- The location of a path if the way to it exists. Only what is too long is a failure. -/
def reach? (f : Files) (p : Path) : Except FileError (Option Location) :=
  match f.locate p with
  | .ok l => .ok (some l)
  | .error e => if e.cause = .nameTooLong then .error e else .ok none

/-- Whether there is a folder or a text. -/
def has (f : Files) (p : Path) : Except FileError Bool :=
  (f.reach? p).map fun r => r.any fun l => f.isFolder l || (f.textAt? l).isSome

/-- Line ends of all kinds become line feeds when a file is read. -/
def plainLines : List Char → List Char
  | [] => []
  | '\r' :: '\n' :: cs => '\n' :: plainLines cs
  | '\r' :: cs => '\n' :: plainLines cs
  | c :: cs => c :: plainLines cs

def read (f : Files) (p : Path) : Except FileError String := do
  let l ← f.locate p
  if f.isFolder l then throw ⟨.isFolder, p.text⟩
  match f.textAt? l with
  | some s => return String.ofList (plainLines s.toList)
  | none => throw ⟨.notFound, p.text⟩

def putText (f : Files) (l : Location) (s : String) : Files :=
  { f with texts := (l, s) :: f.texts.filter fun e => e.1 ≠ l }

/-- Writes a text. Its folder has to exist. -/
def write (f : Files) (p : Path) (s : String) : Except FileError Files := do
  let l ← f.locate p
  if f.isFolder l then throw ⟨.isFolder, p.text⟩
  if !f.isFolder l.dropLast then throw ⟨.notFound, p.text⟩
  return f.putText l s

/-- Makes one folder where nothing is yet. -/
def makeFolder (f : Files) (p : Path) : Except FileError Files := do
  let l ← f.locate p
  if f.isFolder l || (f.textAt? l).isSome then throw ⟨.taken, p.text⟩
  return { f with folders := l :: f.folders }

def isFolderAt (f : Files) (p : Path) : Bool :=
  match f.locate p with
  | .ok l => f.isFolder l
  | .error _ => false

/-- Makes a folder and those above it. A folder that exists is fine, and those that were made stay
also if a later one cannot be made. -/
def makeFolders (f : Files) (p : Path) : Files × Except FileError Unit :=
  go p p.parts.length f
where
  once (p : Path) (f : Files) : Files × Except FileError Unit :=
    match f.makeFolder p with
    | .ok f => (f, .ok ())
    | .error e => (f, if f.isFolderAt p then .ok () else .error e)
  go (p : Path) : Nat → Files → Files × Except FileError Unit
    | 0, f => once p f
    | depth + 1, f =>
      match once p f with
      | (f, .error e) =>
        if e.cause = .notFound then
          match go p.parent depth f with
          | (f, .ok _) => once p f
          | r => r
        else (f, .error e)
      | r => r

/-- Puts a text where it can be written, with the folders above it. -/
def place (f : Files) (p : Path) (s : String) : Files :=
  let f := (f.makeFolders p.parent).1
  (f.write p s).toOption.getD f

/-- Names in a folder that end in the given text, in the order of their characters. -/
def namesIn (f : Files) (l : Location) (ending : String) : List String :=
  let inside (k : Location) : Option String :=
    if k.length = l.length + 1 ∧ k.dropLast = l then k.getLast? else none
  let names := (f.folders.filterMap inside ++ f.texts.filterMap fun e => inside e.1).filter
    fun n => n.endsWith ending
  names.mergeSort fun a b => a ≤ b

/-- The documents of a folder, in the order of their names; none if there is no such folder. -/
def documentsIn (f : Files) (folder : Path) : Except FileError (List Path) :=
  (f.reach? folder).map fun r =>
    match r.filter f.isFolder with
    | some l => (f.namesIn l ".json").map folder.child
    | none => []

end Files

end Storyworld
