import Storyworld.Narration.Narrator
import Storyworld.Number

/-!
The client that completes prompts, and the tokens it has used. Every call stands for itself.
-/

namespace Storyworld.Narration

structure Settings where
  model : String
  systemPrompt : String
  maxTokens : Int
  temperature : Number

def defaultModel : String := "claude-sonnet-4-20250514"

def Settings.standard : Settings := ⟨defaultModel, "", 512, .float 0.8⟩

/-- The key that was given, or else the one of the surroundings; an empty one is none. -/
def resolveKey (given surrounding : Option String) : Except Mishap String :=
  match (given.filter (· ≠ "")).or (surrounding.filter (· ≠ "")) with
  | some key => .ok key
  | none => .error .noKey

/-- A call as the service gets it. -/
def Settings.call (s : Settings) (prompt : String) : Value :=
  .mapping ([
    ("model", .text s.model),
    ("max_tokens", .int s.maxTokens),
    ("temperature", s.temperature.toValue),
    ("messages", .list [.mapping [("role", .text "user"), ("content", .text prompt)]])] ++
    (if s.systemPrompt = "" then [] else [("system", .text s.systemPrompt)]))

structure Usage where
  input : Int
  output : Int
  cacheCreation : Int
  cacheRead : Int
  completions : Nat
  deriving Repr, DecidableEq

/-- The tokens of one response, where those of the cache may be missing. -/
structure Spent where
  input : Int
  output : Int
  cacheCreation : Option Int
  cacheRead : Option Int
  deriving Repr, DecidableEq

namespace Usage

def nothing : Usage := ⟨0, 0, 0, 0, 0⟩

def record (u : Usage) (s : Spent) : Usage :=
  { input := u.input + s.input
    output := u.output + s.output
    cacheCreation := u.cacheCreation + s.cacheCreation.getD 0
    cacheRead := u.cacheRead + s.cacheRead.getD 0
    completions := u.completions + 1 }

def totalInput (u : Usage) : Int :=
  u.input + u.cacheCreation + u.cacheRead

/-- The output of a completion on average; zero before the first. -/
def average (u : Usage) : Except Fault Float :=
  if u.completions = 0 then .ok 0.0 else Decimal.quotient u.output u.completions

end Usage

structure Block where
  kind : String
  text : String
  deriving Repr, DecidableEq

/-- What the service answers. -/
inductive Response where
  | blocks (bs : List Block) (spent : Spent)
  | failure (message : String)
  deriving Repr, DecidableEq

/-- The answer when there are no more responses. -/
def Response.silence : Response := .blocks [] ⟨0, 0, none, none⟩

/-- The texts of a response, each from a line of its own on. -/
def Response.reply : Response → Reply
  | blocks bs _ =>
    .text (String.intercalate "\n" ((bs.filter fun b => b.kind == "text").map Block.text))
  | failure m => .failure m

/-- A response adds to the usage unless it is a failure. -/
def Usage.after (u : Usage) : Response → Usage
  | .blocks _ spent => u.record spent
  | .failure _ => u

end Storyworld.Narration
