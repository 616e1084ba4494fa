import Storyworld.Files.Basic
import Storyworld.Json.Reader
import Storyworld.Schema.Checked

/-!
Everything that can go wrong in work with documents, files, sessions and narration.
-/

namespace Storyworld

inductive Mishap where
  | fault (f : Fault)
  | misfits (ms : List Schema.Misfit)
  | misread (m : Json.Misread)
  | file (e : FileError)
  | unknownScenario (id : String) (loaded : List String)
  | notAnObject
  | otherId (found : Value) (id : String)
  | noKey
  | negativeLimit
  | missingTemplate (name : String)
  | undefinedName (name : String)
  | narration (message : String)

namespace Mishap

def ofJson : Json.Failure → Mishap
  | .misread m => misread m
  | .fault f => fault f

/-- The wording; none for a fault that has none, and for misfits, which are listed instead. -/
def message : Mishap → Option String
  | fault f => f.message
  | misfits _ => none
  | misread m => some m.message
  | file e => some e.message
  | unknownScenario id loaded =>
    some ("Unknown ruleset " ++ Text.quoted id ++ ". Loaded: " ++ shownNames loaded)
  | notAnObject => some "A rule document must be a JSON object."
  | otherId found id =>
    match found.shown with
    | .ok shown =>
      some ("The 'id' in the JSON (" ++ shown ++ ") does not match the file name (" ++
        Text.quoted id ++ "). Please correct it.")
    | .error _ => none
  | noKey => some "No API key provided. Pass api_key= or set ANTHROPIC_API_KEY."
  | negativeLimit => some "maxlen must be non-negative"
  | missingTemplate name => some name
  | undefinedName name => some (Text.quoted name ++ " is undefined")
  | narration message => some message

end Mishap

end Storyworld
