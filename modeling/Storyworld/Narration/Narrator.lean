import Storyworld.Narration.Bundled

/-!
A narrator tells what an action has done. What it is going to answer is a list of replies; when
they are used up it answers with nothing.
-/

namespace Storyworld

namespace Narration

def Templates.find (ts : Templates) (l : Language) : Except Mishap Template :=
  match ts with
  | bundled => .ok (bundledPrompt l)
  | folder name files =>
    match lookupLast (templateName l) files with
    | some s => .ok (templateOf s.length s.toList)
    | none => .error (.missingTemplate (Text.quoted (templateName l) ++
        " not found in search path: " ++ Text.quoted name))

def renderPrompt (ts : Templates) (r : Request) : Except Mishap String := do
  render (← ts.find r.language) r

end Narration

/-- A reply: a text, or a failure with a message. -/
inductive Reply where
  | text (s : String)
  | failure (message : String)
  deriving Repr, DecidableEq

structure Narrator where
  templates : Narration.Templates
  replies : List Reply
  /-- The prompts so far. -/
  prompts : List String

namespace Narrator

/-- Asks for a text, which comes without blanks around it. -/
def narrate (n : Narrator) (r : Narration.Request) : Narrator × Except Mishap String :=
  match Narration.renderPrompt n.templates r with
  | .error e => (n, .error e)
  | .ok prompt =>
    let asked := { n with prompts := n.prompts ++ [prompt], replies := n.replies.tail }
    match n.replies with
    | .text s :: _ => (asked, .ok (Text.trimText s))
    | .failure m :: _ => (asked, .error (.narration m))
    | [] => (asked, .ok "")

end Narrator

end Storyworld
