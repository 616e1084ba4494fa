import Mathlib
import Storyworld.Proofs.Pattern.Faults
import Storyworld.Proofs.Turn.Steady

/-!
The scan for the rule that answers an action, where no rule has a condition. A rule fits, or it is
passed by, or the scan stops at it; only a pattern whose compilation ends with a fault can stop it.
-/

namespace Storyworld

open Noting

/-- A pattern asks for nothing, or it can be compiled and the target is as it asks. -/
def LetsPass (pattern target : Option String) (compiled : String → List Char)
    (check : Pattern.Parsed → List Char → Bool) : Prop :=
  ∀ p, pattern = some p → p ≠ "" →
    ∃ t q, target = some t ∧ t ≠ "" ∧ Pattern.compile (compiled p) = .ok q ∧
      check q t.toList = true

/-- A pattern is compiled for a target, and that ends with a fault. -/
def Halts (pattern target : Option String) (compiled : String → List Char) (f : Fault) : Prop :=
  ∃ p t, pattern = some p ∧ p ≠ "" ∧ target = some t ∧ t ≠ "" ∧
    Pattern.compile (compiled p) = .error (.fault f)

theorem result_fits (written : String) (pattern : List Char) (test : Pattern.Parsed → Bool) :
    (fits written pattern test).result =
      match Pattern.compile pattern with
      | .ok p => .ok (test p)
      | .error (.malformed _) => .ok false
      | .error (.fault f) => .error f := by
  unfold fits
  cases Pattern.compile pattern with
  | ok p => rfl
  | error e =>
    cases e with
    | malformed m => rfl
    | fault f => rfl

theorem fits_eq_true {written : String} {pattern : List Char} {test : Pattern.Parsed → Bool} :
    (fits written pattern test).result = .ok true ↔
      ∃ q, Pattern.compile pattern = .ok q ∧ test q = true := by
  rw [result_fits]
  cases Pattern.compile pattern with
  | ok q => simp
  | error e =>
    cases e with
    | malformed m => simp
    | fault f => simp

theorem fits_eq_error {written : String} {pattern : List Char} {test : Pattern.Parsed → Bool}
    {f : Fault} : (fits written pattern test).result = .error f ↔
      Pattern.compile pattern = .error (.fault f) := by
  rw [result_fits]
  cases Pattern.compile pattern with
  | ok q => simp
  | error e =>
    cases e with
    | malformed m => simp
    | fault f => simp

/-- A pattern asks for nothing, or it has no target, or it is tried. -/
theorem targetFits_cases (pattern target : Option String)
    (test : String → String → Noting Fault Bool) :
    (targetFits pattern target test = pure true ∧ ∀ p, pattern = some p → p = "") ∨
      ∃ p, pattern = some p ∧ p ≠ "" ∧
        (targetFits pattern target test = pure false ∧ (∀ t, target = some t → t = "") ∨
          ∃ t, target = some t ∧ t ≠ "" ∧ targetFits pattern target test = test p t) := by
  unfold targetFits
  split
  · rename_i absent
    exact .inl ⟨rfl, by simpa [Option.filter_eq_none_iff] using absent⟩
  · rename_i p here absent
    obtain ⟨written, full⟩ := Option.filter_eq_some_iff.1 here
    refine .inr ⟨p, written, of_decide_eq_true full, .inl ⟨rfl, ?_⟩⟩
    simpa [Option.filter_eq_none_iff] using absent
  · rename_i p t here there
    obtain ⟨written, full⟩ := Option.filter_eq_some_iff.1 here
    obtain ⟨given, full'⟩ := Option.filter_eq_some_iff.1 there
    exact .inr ⟨p, written, of_decide_eq_true full,
      .inr ⟨t, given, of_decide_eq_true full', rfl⟩⟩

section

variable {pattern target : Option String} {test : String → String → Noting Fault Bool}
  {compiled : String → List Char} {check : Pattern.Parsed → List Char → Bool}
  (tries : ∀ p t, test p t = fits p (compiled p) fun q => check q t.toList)

include tries

theorem targetFits_eq_true :
    (targetFits pattern target test).result = .ok true ↔
      LetsPass pattern target compiled check := by
  obtain ⟨done, absent⟩ | ⟨p, rfl, full, ⟨done, absent⟩ | ⟨t, rfl, full', done⟩⟩ :=
    targetFits_cases pattern target test
  · rw [done]
    exact ⟨fun _ p written full => absurd (absent p written) full, fun _ => rfl⟩
  · rw [done]
    refine ⟨nofun, fun passes => ?_⟩
    obtain ⟨t, q, given, full', -⟩ := passes p rfl full
    exact absurd (absent t given) full'
  · rw [done, tries, fits_eq_true]
    constructor
    · intro ⟨q, same, holds⟩ _ written _
      cases written
      exact ⟨t, q, rfl, full', same, holds⟩
    · intro passes
      obtain ⟨_, q, given, -, same, holds⟩ := passes p rfl full
      cases given
      exact ⟨q, same, holds⟩

theorem targetFits_eq_error {f : Fault} :
    (targetFits pattern target test).result = .error f ↔ Halts pattern target compiled f := by
  obtain ⟨done, absent⟩ | ⟨p, rfl, full, ⟨done, absent⟩ | ⟨t, rfl, full', done⟩⟩ :=
    targetFits_cases pattern target test
  · rw [done]
    exact ⟨nofun, fun ⟨p, _, written, full, _⟩ => absurd (absent p written) full⟩
  · rw [done]
    exact ⟨nofun, fun ⟨_, t, _, _, given, full', _⟩ => absurd (absent t given) full'⟩
  · rw [done, tries, fits_eq_error]
    constructor
    · exact fun stops => ⟨p, t, rfl, full, rfl, full', stops⟩
    · intro ⟨_, _, written, _, given, _, stops⟩
      cases written
      cases given
      exact stops

end

namespace Trigger

/-- The action is the right one and both patterns let the target pass. -/
structure Fits (t : Trigger) (actionId : String) (target : Option String) : Prop where
  action : t.actionId = actionId
  whole : LetsPass t.targetPattern target wholePattern Pattern.Parsed.matchesAll
  text : LetsPass t.textPattern target String.toList Pattern.Parsed.occursIn

/-- The pattern for the whole target ends with a fault, or it lets the target pass and the other
one does. -/
inductive Stops (t : Trigger) (actionId : String) (target : Option String) (f : Fault) : Prop where
  | whole (action : t.actionId = actionId)
      (halts : Halts t.targetPattern target wholePattern f) : Stops t actionId target f
  | text (action : t.actionId = actionId)
      (whole : LetsPass t.targetPattern target wholePattern Pattern.Parsed.matchesAll)
      (halts : Halts t.textPattern target String.toList f) : Stops t actionId target f

/-- The scan goes on to the next rule. -/
def PassedBy (t : Trigger) (actionId : String) (target : Option String) : Prop :=
  ¬ t.Fits actionId target ∧ ∀ f, ¬ t.Stops actionId target f

variable {t : Trigger} {actionId : String} {target : Option String} {s : State}

theorem whole_eq_true : (targetFits t.targetPattern target matchesWhole).result = .ok true ↔
    LetsPass t.targetPattern target wholePattern Pattern.Parsed.matchesAll :=
  targetFits_eq_true fun _ _ => rfl

theorem text_eq_true : (targetFits t.textPattern target occursIn).result = .ok true ↔
    LetsPass t.textPattern target String.toList Pattern.Parsed.occursIn :=
  targetFits_eq_true fun _ _ => rfl

theorem whole_eq_error {f : Fault} :
    (targetFits t.targetPattern target matchesWhole).result = .error f ↔
      Halts t.targetPattern target wholePattern f :=
  targetFits_eq_error fun _ _ => rfl

theorem text_eq_error {f : Fault} :
    (targetFits t.textPattern target occursIn).result = .error f ↔
      Halts t.textPattern target String.toList f :=
  targetFits_eq_error fun _ _ => rfl

theorem result_fires (free : ∀ c, t.require = some c → c = "") :
    (t.fires actionId target s).result =
      if t.actionId ≠ actionId then .ok false
      else (targetFits t.targetPattern target matchesWhole).result >>= fun whole =>
        if whole then (targetFits t.textPattern target occursIn).result else .ok false := by
  have allowed : s.allows t.require = pure true := by
    unfold State.allows
    split
    · rfl
    · rename_i c written
      rw [if_pos (free c written)]
  have last (part : Bool) :
      (if !part then pure false else s.allows t.require : Noting Fault Bool) = pure part := by
    rw [allowed]
    cases part with
    | true => rfl
    | false => rfl
  have text : (targetFits t.textPattern target occursIn >>= fun part =>
      if !part then pure false else s.allows t.require).result =
        (targetFits t.textPattern target occursIn).result := by
    simp only [last, bind_pure]
  unfold fires
  split
  · rfl
  · rw [result_bind]
    · congr 1
      funext whole
      cases whole with
      | true => exact text
      | false => rfl
    · intro whole
      split
      · exact steady_pure _
      · apply (steady_targetFits _ _ fun _ _ => steady_fits ..).bind
        intro part
        rw [last]
        exact steady_pure _

theorem fires_eq_true (free : ∀ c, t.require = some c → c = "") :
    (t.fires actionId target s).result = .ok true ↔ t.Fits actionId target := by
  rw [result_fires free]
  split
  · rename_i other
    constructor
    · intro h
      cases h
    · exact fun fits => absurd fits.action other
  · rename_i same
    constructor
    · intro h
      obtain ⟨whole, first, h⟩ := bind_eq_ok.1 h
      cases whole with
      | false => cases h
      | true => exact ⟨Decidable.not_not.1 same, whole_eq_true.1 first, text_eq_true.1 h⟩
    · intro fits
      rw [whole_eq_true.2 fits.whole]
      exact text_eq_true.2 fits.text

theorem fires_eq_error (free : ∀ c, t.require = some c → c = "") {f : Fault} :
    (t.fires actionId target s).result = .error f ↔ t.Stops actionId target f := by
  rw [result_fires free]
  split
  · rename_i other
    constructor
    · intro h
      cases h
    · intro stops
      cases stops with
      | whole action => exact absurd action other
      | text action => exact absurd action other
  · rename_i same
    have same := Decidable.not_not.1 same
    constructor
    · intro h
      obtain first | ⟨whole, first, h⟩ := bind_eq_error.1 h
      · exact .whole same (whole_eq_error.1 first)
      · cases whole with
        | false => cases h
        | true => exact .text same (whole_eq_true.1 first) (text_eq_error.1 h)
    · intro stops
      cases stops with
      | whole _ halts =>
        rw [whole_eq_error.2 halts]
        rfl
      | text _ whole halts =>
        rw [whole_eq_true.2 whole]
        exact text_eq_error.2 halts

theorem fires_eq_false (free : ∀ c, t.require = some c → c = "") :
    (t.fires actionId target s).result = .ok false ↔ t.PassedBy actionId target := by
  unfold PassedBy
  rw [← fires_eq_true (s := s) free]
  simp only [← fires_eq_error (s := s) free]
  cases (t.fires actionId target s).result with
  | error f => simp
  | ok b => simp

/-- The patterns of a trigger as they are compiled. -/
def compiled (t : Trigger) : List (List Char) :=
  ((t.targetPattern.filter (· ≠ "")).map wholePattern).toList ++
    ((t.textPattern.filter (· ≠ "")).map String.toList).toList

theorem mem_compiled {text : List Char} : text ∈ t.compiled ↔
    (∃ p, t.targetPattern = some p ∧ p ≠ "" ∧ wholePattern p = text) ∨
      ∃ p, t.textPattern = some p ∧ p ≠ "" ∧ p.toList = text := by
  simp [compiled, Option.filter_eq_some_iff, and_assoc]

/-- What stops the scan is a fault of one of the patterns, and the text of that pattern shows it. -/
theorem Stops.upsets {f : Fault} (stops : t.Stops actionId target f) :
    ∃ text ∈ t.compiled,
      Pattern.compile text = .error (.fault f) ∧ Pattern.Upsets f text := by
  cases stops with
  | whole _ halts =>
    obtain ⟨p, _, written, full, -, -, fault⟩ := halts
    exact ⟨_, mem_compiled.2 (.inl ⟨p, written, full, rfl⟩), fault, Pattern.compile_fault fault⟩
  | text _ _ halts =>
    obtain ⟨p, _, written, full, -, -, fault⟩ := halts
    exact ⟨_, mem_compiled.2 (.inr ⟨p, written, full, rfl⟩), fault, Pattern.compile_fault fault⟩

/-- A pattern that is not well formed lets no target pass. -/
theorem passedBy_of_malformed {text : List Char} {m : Pattern.Malformed}
    (mem : text ∈ t.compiled) (bad : Pattern.compile text = .error (.malformed m))
    (sound : ∀ text ∈ t.compiled, ∀ f, Pattern.compile text ≠ .error (.fault f)) :
    t.PassedBy actionId target := by
  constructor
  · intro fits
    obtain ⟨p, written, full, rfl⟩ | ⟨p, written, full, rfl⟩ := mem_compiled.1 mem
    · obtain ⟨_, q, -, -, same, -⟩ := fits.whole p written full
      cases bad.symm.trans same
    · obtain ⟨_, q, -, -, same, -⟩ := fits.text p written full
      cases bad.symm.trans same
  · intro f stops
    obtain ⟨text', mem', fault, -⟩ := stops.upsets
    exact sound text' mem' f fault

end Trigger

/-! Over the rules -/

/-- A rule stands at a place, and all rules in front of it are passed by. -/
def ComesTo (rules : List Rule) (actionId : String) (target : Option String) (place : Nat)
    (r : Rule) : Prop :=
  rules[place]? = some r ∧ ∀ q ∈ rules.take place, q.trigger.PassedBy actionId target

section

variable {actionId : String} {target : Option String} {s : State} {q r : Rule} {rules : List Rule}

@[simp] theorem comesTo_zero :
    ComesTo (q :: rules) actionId target 0 r ↔ q = r := by
  simp [ComesTo]

@[simp] theorem comesTo_succ {n : Nat} :
    ComesTo (q :: rules) actionId target (n + 1) r ↔
      q.trigger.PassedBy actionId target ∧ ComesTo rules actionId target n r := by
  simp only [ComesTo, List.getElem?_cons_succ, List.take_succ_cons, List.forall_mem_cons]
  exact and_left_comm

theorem exists_comesTo {claim : Nat → Rule → Prop} :
    (∃ n r, ComesTo (q :: rules) actionId target n r ∧ claim n r) ↔
      claim 0 q ∨ q.trigger.PassedBy actionId target ∧
        ∃ n r, ComesTo rules actionId target n r ∧ claim (n + 1) r := by
  constructor
  · rintro ⟨n, r, comes, holds⟩
    cases n with
    | zero =>
      rw [comesTo_zero] at comes
      exact .inl (comes ▸ holds)
    | succ n =>
      rw [comesTo_succ] at comes
      exact .inr ⟨comes.1, n, r, comes.2, holds⟩
  · intro h
    obtain holds | ⟨passed, n, r, comes, holds⟩ := h
    · exact ⟨0, q, comesTo_zero.2 rfl, holds⟩
    · exact ⟨n + 1, r, comesTo_succ.2 ⟨passed, comes⟩, holds⟩

theorem firstFiring_eq_error {f : Fault} {i : Nat}
    (free : ∀ r ∈ rules, ∀ c, r.trigger.require = some c → c = "") :
    (firstFiring actionId target s i rules).result = .error f ↔
      ∃ n r, ComesTo rules actionId target n r ∧ r.trigger.Stops actionId target f := by
  induction rules generalizing i with
  | nil => simp [firstFiring, ComesTo]
  | cons q rest ih =>
    obtain ⟨here, later⟩ := List.forall_mem_cons.1 free
    rw [result_firstFiring_cons, bind_eq_error, Trigger.fires_eq_error here, exists_comesTo]
    apply or_congr_right
    constructor
    · rintro ⟨fired, first, h⟩
      cases fired with
      | true => cases h
      | false => exact ⟨(Trigger.fires_eq_false here).1 first, (ih later).1 h⟩
    · rintro ⟨passed, h⟩
      exact ⟨false, (Trigger.fires_eq_false here).2 passed, (ih later).2 h⟩

theorem firstFiring_eq_some {i j : Nat}
    (free : ∀ r ∈ rules, ∀ c, r.trigger.require = some c → c = "") :
    (firstFiring actionId target s i rules).result = .ok (some (j, r)) ↔
      ∃ n q, ComesTo rules actionId target n q ∧ j = i + n ∧ q = r ∧
        q.trigger.Fits actionId target := by
  induction rules generalizing i with
  | nil => simp [firstFiring, ComesTo]
  | cons q rest ih =>
    obtain ⟨here, later⟩ := List.forall_mem_cons.1 free
    rw [result_firstFiring_cons, bind_eq_ok, exists_comesTo]
    constructor
    · rintro ⟨fired, first, h⟩
      cases fired with
      | true =>
        cases h
        exact .inl ⟨rfl, rfl, (Trigger.fires_eq_true here).1 first⟩
      | false =>
        obtain ⟨n, q', comes, place, rest⟩ := (ih later).1 h
        refine .inr ⟨(Trigger.fires_eq_false here).1 first, n, q', comes, ?_, rest⟩
        omega
    · intro h
      obtain ⟨rfl, rfl, fits⟩ | ⟨passed, n, q', comes, place, rest⟩ := h
      · exact ⟨true, (Trigger.fires_eq_true here).2 fits, rfl⟩
      · refine ⟨false, (Trigger.fires_eq_false here).2 passed, (ih later).2 ?_⟩
        refine ⟨n, q', comes, ?_, rest⟩
        omega

theorem firstFiring_eq_none {i : Nat}
    (free : ∀ r ∈ rules, ∀ c, r.trigger.require = some c → c = "") :
    (firstFiring actionId target s i rules).result = .ok none ↔
      ∀ q ∈ rules, q.trigger.PassedBy actionId target := by
  induction rules generalizing i with
  | nil => simp [firstFiring]
  | cons q rest ih =>
    obtain ⟨here, later⟩ := List.forall_mem_cons.1 free
    rw [result_firstFiring_cons, bind_eq_ok, List.forall_mem_cons]
    constructor
    · rintro ⟨fired, first, h⟩
      cases fired with
      | true => cases h
      | false => exact ⟨(Trigger.fires_eq_false here).1 first, (ih later).1 h⟩
    · rintro ⟨passed, others⟩
      exact ⟨false, (Trigger.fires_eq_false here).2 passed, (ih later).2 others⟩

end

/-- A lookout, whose state has nothing but its situation. -/
def lookout : State where
  situation := "gate"
  counters := []
  tracks := []
  log := []
  route := none
  nextSituation := none
  player := .newcomer .en
  baseline := none
  knownTargets := []
  sceneDescriptions := []

/-- At the gate a pattern was left open; the rule behind it has a good one. -/
def gate : Situation where
  label := "The gate"
  description := none
  allowedActions := ["look"]
  rules := [⟨⟨"look", some "(", none, none⟩, [], none⟩,
    ⟨⟨"look", none, some "o+", none⟩, [], none⟩]
  enterIf := none
  ending := false

theorem compile_gate : Pattern.compile (wholePattern "(") =
    .error (.malformed ⟨.missing "), unterminated subpattern", some 0⟩) := by
  cbv

/-- In the hoard a pattern counts too far, and the rule behind it would fit. -/
def hoard : Situation where
  label := "The hoard"
  description := none
  allowedActions := ["look"]
  rules := [⟨⟨"look", none, some "a\x7b4294967295\x7d", none⟩, [], none⟩,
    ⟨⟨"look", none, none, none⟩, [], none⟩]
  enterIf := none
  ending := false

end Storyworld
