import Storyworld.Proofs.Check.Loaded
import Storyworld.Proofs.Pattern.Whole
import Storyworld.Proofs.Turn.Scan

/-!
A target and the pattern that a rule asks of the whole of it. A pattern that passes the check is
compiled as one group for the match. It fits what it matches by itself if it has no switches for the
whole and refers to groups by name; with such switches it fits nothing.
-/

namespace Storyworld

/-- Whether a rule that asks only for a pattern of the whole target fires is up to the pattern. -/
theorem fires_whole {p t : String} (a : String) (s : State) (full : p ≠ "") (there : t ≠ "") :
    (Trigger.mk a (some p) none none).fires a (some t) s = matchesWhole p t := by
  have kept {u : String} (h : u ≠ "") : (some u).filter (· ≠ "") = some u :=
    Option.filter_some_pos (decide_eq_true h)
  have pattern : targetFits (some p) (some t) matchesWhole = matchesWhole p t := by
    rw [targetFits, kept full, kept there]
  have last (b : Bool) :
      (if !b then pure false else targetFits none (some t) occursIn >>= fun part =>
        if !part then pure false else s.allows none : Noting Fault Bool) = pure b := by
    cases b with
    | false => rfl
    | true => rfl
  unfold Trigger.fires
  dsimp only
  rw [if_neg (not_not_intro rfl), pattern]
  simp only [last, bind_pure]

theorem outcome_fits_ok {written : String} {pattern : List Char} {q : Pattern.Parsed}
    (test : Pattern.Parsed → Bool) (compiled : Pattern.compile pattern = .ok q) :
    (fits written pattern test).outcome = (.ok (test q), []) := by
  unfold fits
  rw [compiled]
  rfl

theorem outcome_fits_malformed {written : String} {pattern : List Char} {m : Pattern.Malformed}
    (test : Pattern.Parsed → Bool) (compiled : Pattern.compile pattern = .error (.malformed m)) :
    (fits written pattern test).outcome = (.ok false,
      [⟨.warning, "Invalid rule pattern " ++ Text.quoted written ++ ": " ++
        m.message pattern⟩]) := by
  unfold fits
  rw [compiled]
  rfl

/-- Two letters that are the same. -/
def twins : String := "(?P<x>a|b)(?P=x)"

theorem compile_twins : Pattern.compile twins.toList =
    .ok ⟨.seq (.group 1 (.set false [.char 97, .char 98])) (.backref 1 true), .none,
      [some ⟨1, 1⟩]⟩ := by
  cbv

/-- The same by number, which is that of another group as soon as there is one more in front. -/
def numberedTwins : String := "(a|b)\\1"

end Storyworld
