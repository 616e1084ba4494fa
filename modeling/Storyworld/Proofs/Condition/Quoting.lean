import Storyworld.Proofs.Condition.Composing
import Storyworld.Proofs.Entries
import Storyworld.State.Scope

/-!
Texts between quotes in conditions. A text with a backslash in front of its quotes and backslashes
is read as itself, so every counter and every track can be named.
-/

namespace Storyworld

namespace Condition

def escapeQuote (c : Char) : List Char :=
  if c = '\'' ∨ c = '\\' then ['\\', c] else [c]

/-- A text as it is written between single quotes. -/
def escaped (s : String) : String :=
  String.ofList (s.toList.flatMap escapeQuote)

theorem stringBody_escaped (cs rest : List Char) :
    stringBody '\'' (cs.flatMap escapeQuote ++ '\'' :: rest) =
      some (cs.flatMap escapeQuote ++ ['\''], rest) := by
  induction cs with
  | nil => simp [stringBody]
  | cons c cs ih =>
    by_cases special : c = '\'' ∨ c = '\\'
    · have line : c ≠ '\n' := by
        rintro rfl
        simp at special
      simp [escapeQuote, special, stringBody, line, ih]
    · have plain : c ≠ '\'' ∧ c ≠ '\\' := not_or.1 special
      rw [List.flatMap_cons, escapeQuote, if_neg special]
      simp [stringBody, plain, ih]

theorem unescape_escaped (cs : List Char) : unescape (cs.flatMap escapeQuote) = cs := by
  induction cs with
  | nil => rfl
  | cons c cs ih =>
    by_cases special : c = '\'' ∨ c = '\\'
    · rw [List.flatMap_cons, escapeQuote, if_pos special]
      obtain rfl | rfl := special <;> simp [unescape, ih]
    · rw [List.flatMap_cons, escapeQuote, if_neg special]
      simp [unescape, not_or.1 special, ih]

theorem written_quoted (s : String) (rest : List Char) :
    Symbol.unary.Written ('\'' :: ((escaped s).toList ++ '\'' :: rest)) (.literal (.text s))
      rest := by
  rw [escaped, String.toList_ofList]
  have found : lexeme? ('\'' :: (s.toList.flatMap escapeQuote ++ '\'' :: rest)) =
      some (some .string, '\'' :: (s.toList.flatMap escapeQuote ++ ['\'']), rest) :=
    lexeme?_eq_some.2 (.quoted (.inl rfl) (stringBody_escaped s.toList rest))
  have means : unquote ('\'' :: (s.toList.flatMap escapeQuote ++ ['\''])) = s := by
    simp [unquote, unescape_escaped]
  have written := Symbol.Written.access (.text (.token found .done)) (steps_done rest)
  rw [means] at written
  exact written

/-- Any text can be written as a literal. -/
theorem parse_quoted (s : String) : parse ("'" ++ escaped s ++ "'") = .ok (.literal (.text s)) := by
  have text : ("'" ++ escaped s ++ "'").toList = '\'' :: ((escaped s).toList ++ ['\'']) := by
    simp
  rw [parse_iff_written, text]
  exact (written_quoted s []).expression

/-- A name with a key between brackets and quotes behind it. -/
theorem written_member {name : String} (k : String) {f : Expr → Expr} {mid rest : List Char}
    (word : ∀ cs, lexeme? (name.toList ++ '[' :: cs) =
      some (some .ident, name.toList, '[' :: cs))
    (free : keyword? name = none) (more : Part.steps.Written mid f rest) :
    Symbol.unary.Written
      (name.toList ++ '[' :: '\'' :: ((escaped k).toList ++ '\'' :: ']' :: mid))
      (f (.member (.name name) (.literal (.text k)))) rest := by
  have free' : ∀ v, ¬ Keyword (String.ofList name.toList) v := by
    intro v keyword
    rw [String.ofList_toList, ← keyword?_eq_some, free] at keyword
    cases keyword
  have opens (cs : List Char) : Cuts ('[' :: cs) [Token.op "["] cs := .token rfl .done
  have closes (cs : List Char) : Cuts (']' :: cs) [Token.op "]"] cs := .token rfl .done
  have first (cs : List Char) := Symbol.Written.name (.token (word cs) .done) free'
  have step := steps_index (opens _) (written_quoted k _).expression (closes _) more
  rw [String.ofList_toList] at first
  exact (first _).access step

theorem written_counter (k : String) (rest : List Char) :
    Symbol.unary.Written
      ("counters".toList ++ '[' :: '\'' :: ((escaped k).toList ++ '\'' :: ']' :: rest))
      (.member (.name "counters") (.literal (.text k))) rest :=
  written_member k (fun _ => rfl) (by simp [keyword?]) (steps_done rest)

theorem parse_counter (k : String) : parse ("counters['" ++ escaped k ++ "']") =
    .ok (.member (.name "counters") (.literal (.text k))) := by
  have text : ("counters['" ++ escaped k ++ "']").toList =
      "counters".toList ++ '[' :: '\'' :: ((escaped k).toList ++ '\'' :: ']' :: []) := by
    simp
  rw [parse_iff_written, text]
  exact (written_counter k []).expression

theorem parse_track (k : String) : parse ("tracks['" ++ escaped k ++ "'].value") =
    .ok (.member (.member (.name "tracks") (.literal (.text k))) (.literal (.text "value"))) := by
  have text : ("tracks['" ++ escaped k ++ "'].value").toList =
      "tracks".toList ++ '[' :: '\'' :: ((escaped k).toList ++ '\'' :: ']' :: ".value".toList) := by
    simp
  have value : Part.steps.Written ".value".toList
      (fun target => .member target (.literal (.text "value"))) [] :=
    steps_property (t := "value".toList) (.token rfl .done) (.token rfl .done) (steps_done [])
  rw [parse_iff_written, text]
  exact (written_member k (fun _ => rfl) (by simp [keyword?]) value).expression

end Condition

namespace State

open Condition

variable {s : State} {k : String}

theorem eval_counter {c : Counter} (found : lookupLast k s.counters = some c) :
    (Expr.member (.name "counters") (.literal (.text k))).eval s.scope = .ok c.toValue := by
  have entry : lookupLast k (s.counters.map fun c => (c.1, c.2.toValue)) = some c.toValue := by
    rw [lookupLast_map, found]
    rfl
  have member : memberOf (countersValue s.counters) (.text k) = .ok c.toValue := by
    simp only [countersValue, memberOf, entry]
  exact member

theorem eval_track {t : Track} (found : lookupLast k s.tracks = some t) :
    (Expr.member (.member (.name "tracks") (.literal (.text k))) (.literal (.text "value"))).eval
      s.scope = .ok t.value.toValue := by
  have entry : lookupLast k (s.tracks.map fun t => (t.1, t.2.toValue)) = some t.toValue := by
    rw [lookupLast_map, found]
    rfl
  have member : memberOf (tracksValue s.tracks) (.text k) = .ok t.toValue := by
    simp only [tracksValue, memberOf, entry]
  have inner : (Expr.member (.name "tracks") (.literal (.text k))).eval s.scope =
      .ok t.toValue := member
  rw [Expr.eval, inner]
  rfl

/-- A text whose quotes and backslashes are escaped is read as itself, whatever it is; so every
track and every counter of a state has its value in a condition that names it between quotes. -/
theorem every_key_addressable (s : State) :
    (∀ text, parse ("'" ++ escaped text ++ "'") = .ok (.literal (.text text))) ∧
      (∀ id t, lookupLast id s.tracks = some t →
        valueIn s.scope ("tracks['" ++ escaped id ++ "'].value") = .ok t.value.toValue) ∧
      ∀ id c, lookupLast id s.counters = some c →
        valueIn s.scope ("counters['" ++ escaped id ++ "']") = .ok c.toValue := by
  refine ⟨parse_quoted, fun id t found => ?_, fun id c found => ?_⟩
  · exact bind_of_ok (mapError_eq_ok.2 (parse_track id)) (mapError_eq_ok.2 (eval_track found))
  · exact bind_of_ok (mapError_eq_ok.2 (parse_counter id)) (mapError_eq_ok.2 (eval_counter found))

example : escaped "o'clock\\n" = "o\\'clock\\\\n" := by
  cbv

end State

end Storyworld
