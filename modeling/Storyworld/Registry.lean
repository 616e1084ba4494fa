import Storyworld.Bundled.EcoPollution
import Storyworld.Json.Writer
import Storyworld.Mishap
import Storyworld.Scenario.Document

/-!
The scenarios that are loaded, under their ids. Documents are read from files, and edited ones are
checked and written back.
-/

namespace Storyworld

structure Registry where
  scenarios : List (String × Scenario)

/-- Where the bundled scenarios are: in the program, or in a folder that stands for them. -/
inductive Bundle where
  | builtIn
  | folder (p : Path)

namespace Registry

def empty : Registry := ⟨[]⟩

def register (r : Registry) (s : Scenario) : Registry :=
  ⟨putEntry s.id s r.scenarios⟩

/-- The ids in the order of their characters. -/
def ids (r : Registry) : List String :=
  (r.scenarios.map Prod.fst).mergeSort fun a b => a ≤ b

def get (r : Registry) (id : String) : Except Mishap Scenario :=
  match lookupLast id r.scenarios with
  | some s => .ok s
  | none => .error (.unknownScenario id r.ids)

def shown (r : Registry) : String :=
  "RulesetRegistry(rulesets=" ++ shownNames r.ids ++ ")"

/-- A scenario in the text of a document. -/
def readScenario (text : String) : Except Mishap Scenario := do
  let v ← (Json.readDocument text).mapError Mishap.ofJson
  (Scenario.read v).toExcept.mapError .misfits

def fileScenario (files : Files) (p : Path) : Except Mishap Scenario := do
  readScenario (← (files.read p).mapError .file)

/-- Loads a file; a registry that cannot load it stays as it was. -/
def loadFile (r : Registry) (files : Files) (p : Path) : Except Mishap (Registry × Scenario) := do
  let s ← fileScenario files p
  return (r.register s, s)

/-- Loads files in order up to the first that cannot be loaded. -/
def loadFiles (files : Files) : List Path → Registry → Registry × Except Mishap (List Scenario)
  | [], r => (r, .ok [])
  | p :: rest, r =>
    match r.loadFile files p with
    | .error e => (r, .error e)
    | .ok (r, s) =>
      let (r, more) := loadFiles files rest r
      (r, more.map (s :: ·))

def loadFolder (r : Registry) (files : Files) (folder : Path) :
    Registry × Except Mishap (List Scenario) :=
  match files.documentsIn folder with
  | .ok paths => loadFiles files paths r
  | .error e => (r, .error (.file e))

def loadBundled (r : Registry) (files : Files) : Bundle → Registry × Except Mishap (List Scenario)
  | .builtIn => (r.register EcoPollution.scenario, .ok [EcoPollution.scenario])
  | .folder p => r.loadFolder files p

/-- The folder to save in: the one asked for, the configured one, or that of the bundle. -/
def folderToSave (asked configured : Option String) (bundle : String) : Path :=
  match asked with
  | some p => .ofText p
  | none => .ofText ((configured.filter (· ≠ "")).getD bundle)

/-- The value of a document that has the given id. -/
def readNamed (id text : String) : Except Mishap Value := do
  match ← (Json.readDocument text).mapError Mishap.ofJson with
  | .mapping entries =>
    match (lookupLast "id" entries).getD .null with
    | .text found =>
      if found = id then return .mapping entries else throw (.otherId (.text found) id)
    | v => throw (.otherId v id)
  | _ => throw .notAnObject

/-- A checked document, as a value and as a scenario. -/
def readChecked (id text : String) : Except Mishap (Value × Scenario) := do
  let v ← readNamed id text
  return (v, ← (Scenario.read v).toExcept.mapError .misfits)

structure Saved where
  registry : Registry
  path : Path
  text : String

/-- Checks a document and writes it under its id. Folders that were made for it stay also if it
cannot be written. -/
def save (r : Registry) (files : Files) (id text : String) (folder : Path) :
    Files × Except Mishap Saved :=
  match readChecked id text with
  | .error e => (files, .error e)
  | .ok (v, s) =>
    let path := folder.under (.ofText (id ++ ".json"))
    match files.makeFolders path.parent with
    | (files, .error e) => (files, .error (.file e))
    | (files, .ok _) =>
      let written := Json.writeDocument v
      match files.write path written with
      | .error e => (files, .error (.file e))
      | .ok files => (files, .ok ⟨r.register s, path, written⟩)

end Registry

end Storyworld
