import Storyworld.Check.Effects
import Storyworld.Proofs.Condition.Numbers
import Storyworld.Proofs.Results
import Storyworld.State.Effects

/-!
Checks that find no error. A list of checks is clean if and only if each of them is. What a clean
check lets through is what play can read: amounts, values of counters and conditions.
-/

namespace Storyworld

/-- A condition that can be read. -/
def Condition.Parses (c : String) : Prop :=
  ∃ x, Condition.parse c = .ok x

/-- Trimming takes nothing of another class away. -/
theorem Text.filter_trimBy {p q : Char → Bool} (apart : ∀ c, q c = true → p c = false)
    (cs : List Char) : (Text.trimBy p cs).filter q = cs.filter q := by
  have front (ds : List Char) : (ds.dropWhile p).filter q = ds.filter q := by
    have cut : (ds.takeWhile p).filter q = [] := by
      refine List.filter_eq_nil_iff.2 fun c mem kept => ?_
      cases (apart c kept).symm.trans (List.all_eq_true.1 List.all_takeWhile c mem)
    calc (ds.dropWhile p).filter q
        = (ds.takeWhile p ++ ds.dropWhile p).filter q := by
          rw [List.filter_append, cut, List.nil_append]
      _ = ds.filter q := by rw [List.takeWhile_append_dropWhile]
  rw [Text.trimBy, Text.trimEnd, List.filter_reverse, front, List.filter_reverse,
    List.reverse_reverse, front]

namespace Check

theorem hasErrors_append (is js : List Issue) :
    hasErrors (is ++ js) = (hasErrors is || hasErrors js) := List.any_append

theorem hasErrors_flatten {lists : List (List Issue)} :
    hasErrors lists.flatten = false ↔ ∀ is ∈ lists, hasErrors is = false := by
  simp [hasErrors, List.any_flatten]

theorem hasErrors_flatMap {α : Type} {as : List α} {issues : α → List Issue} :
    hasErrors (as.flatMap issues) = false ↔ ∀ a ∈ as, hasErrors (issues a) = false := by
  simp [hasErrors]

@[simp] theorem hasErrors_demand (holds : Bool) (path message : String) :
    hasErrors (demand holds (anError path message)) = !holds := by
  cases holds <;> rfl

/-- A check that is finished and finds no error. -/
def Clean (check : Issues) : Prop :=
  ∃ issues, check = .ok issues ∧ hasErrors issues = false

theorem clean_ok {issues : List Issue} : Clean (.ok issues) ↔ hasErrors issues = false := by
  simp [Clean]

theorem mapM_id_eq_ok {checks : List Issues} {lists : List (List Issue)} :
    checks.mapM id = .ok lists ↔ checks = lists.map .ok := by
  induction checks generalizing lists with
  | nil => cases lists <;> simp [pure, Except.pure]
  | cons c rest ih =>
    rw [List.mapM_cons, bind_eq_ok]
    constructor
    · rintro ⟨is, rfl, h⟩
      obtain ⟨more, others, h⟩ := bind_eq_ok.1 h
      cases h
      rw [ih.1 others, List.map_cons]
    · intro same
      cases lists with
      | nil => cases same
      | cons is more =>
        obtain ⟨rfl, rfl⟩ := List.cons.inj same
        exact ⟨is, rfl, bind_eq_ok.2 ⟨more, ih.2 rfl, rfl⟩⟩

theorem clean_all {checks : List Issues} : Clean (all checks) ↔ ∀ c ∈ checks, Clean c := by
  constructor
  · rintro ⟨issues, done, none⟩ c mem
    obtain ⟨lists, each, rfl⟩ := map_eq_ok.1 done
    rw [mapM_id_eq_ok.1 each] at mem
    obtain ⟨is, inside, rfl⟩ := List.mem_map.1 mem
    exact ⟨is, rfl, hasErrors_flatten.1 none is inside⟩
  · intro clean
    have each : ∃ lists : List (List Issue), checks = lists.map .ok ∧
        ∀ is ∈ lists, hasErrors is = false := by
      induction checks with
      | nil => exact ⟨[], rfl, nofun⟩
      | cons c rest ih =>
        obtain ⟨is, rfl, none⟩ := clean c List.mem_cons_self
        obtain ⟨lists, rfl, others⟩ := ih fun c mem => clean c (List.mem_cons_of_mem _ mem)
        exact ⟨is :: lists, rfl, by simpa using ⟨none, others⟩⟩
    obtain ⟨lists, same, none⟩ := each
    refine ⟨lists.flatten, ?_, hasErrors_flatten.2 none⟩
    rw [all, mapM_id_eq_ok.2 same]
    rfl

theorem fieldIn_of_found {es : Entries} {key : String} {v : Value}
    (h : lookupLast key es = some v) : fieldIn es key = v := by
  rw [fieldIn, h]
  rfl

theorem found_of_fieldIn {es : Entries} {key : String} {v : Value} (h : fieldIn es key = v)
    (there : v ≠ .null) : lookupLast key es = some v := by
  unfold fieldIn at h
  cases found : lookupLast key es with
  | none =>
    rw [found] at h
    exact absurd h.symm there
  | some w =>
    rw [found] at h
    exact congrArg some h

theorem condition_parses {label path c : String} (h : Clean (condition label path (.text c))) :
    Condition.Parses c := by
  obtain ⟨issues, done, none⟩ := h
  rw [condition] at done
  split at done
  · rename_i x parsed
    exact ⟨x, parsed⟩
  · cases done
    cases none
  · cases done

theorem condition_clean {label path c : String} (h : Condition.Parses c) :
    Clean (condition label path (.text c)) := by
  obtain ⟨x, parsed⟩ := h
  rw [condition, parsed]
  exact clean_ok.2 rfl

theorem splitSign_eq (cs : List Char) :
    cs = (Decimal.splitSign cs).2 ∨ ∃ sign, (sign = '-' ∨ sign = '+') ∧
      cs = sign :: (Decimal.splitSign cs).2 := by
  unfold Decimal.splitSign
  split <;> simp

/-- Signs and digits are no blanks, so nothing is trimmed. -/
theorem trimNumber_of_isWholeText {cs : List Char} (h : isWholeText cs = true) :
    Decimal.trimNumber cs = cs := by
  simp only [isWholeText, Bool.and_eq_true, List.all_eq_true] at h
  have parts : ∀ c ∈ cs, c = '-' ∨ c = '+' ∨ Text.isDigit c = true := by
    intro c mem
    obtain same | ⟨sign, sort, same⟩ := splitSign_eq cs
    · rw [same] at mem
      exact .inr (.inr (h.2 c mem))
    · rw [same] at mem
      obtain rfl | inside := List.mem_cons.1 mem
      · exact sort.imp_right .inl
      · exact .inr (.inr (h.2 c inside))
  unfold Decimal.trimNumber
  split
  · refine Text.trimBy_of_none fun c mem => ?_
    obtain rfl | rfl | digit := parts c mem
    · decide
    · decide
    · exact Text.isAsciiBlank_of_isDigit digit
  · refine Text.trimBy_of_none fun c mem => ?_
    obtain rfl | rfl | digit := parts c mem
    · decide
    · decide
    · exact Text.isBlank_of_isDigit digit

/-- A whole number as the check has it is read as one, unless it has too many digits. -/
theorem readWhole?_of_isWholeText {cs : List Char} (whole : isWholeText cs = true)
    (short : (cs.filter Text.isDigit).length ≤ Decimal.digitLimit) :
    ∃ n, Decimal.readWhole? cs = some n := by
  have plain := trimNumber_of_isWholeText whole
  have sign := splitSign_eq cs
  simp only [isWholeText, Bool.and_eq_true, Bool.not_eq_true', List.isEmpty_eq_false_iff,
    List.all_eq_true] at whole
  unfold Decimal.readWhole? Decimal.readWhole
  rw [plain]
  generalize Decimal.splitSign cs = parts at whole sign ⊢
  obtain ⟨negative, body⟩ := parts
  obtain ⟨ne, digits⟩ := whole
  have length : body.length ≤ Decimal.digitLimit := by
    have all : body.filter Text.isDigit = body := List.filter_eq_self.2 digits
    obtain rfl | ⟨s, -, rfl⟩ := sign
    · rwa [all] at short
    · have inside := (List.sublist_cons_self s body).filter Text.isDigit
      rw [all] at inside
      exact Nat.le_trans inside.length_le short
  have few : ¬ Decimal.digitLimit < (Decimal.digitValues body).length := by
    rw [Condition.digitValues_length digits]
    exact Nat.not_lt_of_le length
  simp [Condition.digitsOf?_digits ne digits, few]

theorem filter_trimNumber (cs : List Char) :
    (Decimal.trimNumber cs).filter Text.isDigit = cs.filter Text.isDigit := by
  unfold Decimal.trimNumber
  split
  · exact Text.filter_trimBy (fun _ => Text.isAsciiBlank_of_isDigit) cs
  · exact Text.filter_trimBy (fun _ => Text.isBlank_of_isDigit) cs

theorem digitsOf?_length {cs : List Char} {ds : List Nat} (h : Decimal.digitsOf? cs = some ds) :
    (cs.filter Text.isDigit).length = ds.length := by
  have bar : Text.isDigit '_' = false := by decide
  fun_induction Decimal.digitsOf? cs generalizing ds with
  | case1 => cases h
  | case2 c =>
    obtain ⟨d, value, rfl⟩ := Option.map_eq_some_iff.1 h
    simp [Text.isDigit, value]
  | case3 c cs d es later value ih =>
    cases h
    have first : Text.isDigit c = true := by simp [Text.isDigit, value]
    simp [first, bar, ih later]
  | case5 c cs _ _ d es later value ih =>
    cases h
    have first : Text.isDigit c = true := by simp [Text.isDigit, value]
    simp [first, ih later]
  | _ => cases h

/-- A text that is read as a whole number does not have too many digits. -/
theorem length_of_readWhole? {cs : List Char} {n : Int} (h : Decimal.readWhole? cs = some n) :
    (cs.filter Text.isDigit).length ≤ Decimal.digitLimit := by
  unfold Decimal.readWhole? Decimal.readWhole at h
  rw [← filter_trimNumber]
  have sign := splitSign_eq (Decimal.trimNumber cs)
  generalize Decimal.trimNumber cs = text at sign h ⊢
  generalize Decimal.splitSign text = parts at sign h
  obtain ⟨negative, body⟩ := parts
  have same : text.filter Text.isDigit = body.filter Text.isDigit := by
    obtain rfl | ⟨s, rfl | rfl, rfl⟩ := sign <;> rfl
  rw [same]
  dsimp only at h
  cases digits : Decimal.digitsOf? body with
  | none =>
    rw [digits] at h
    cases h
  | some ds =>
    rw [digitsOf?_length digits]
    refine Nat.le_of_not_lt fun many => ?_
    rw [digits] at h
    simp [many] at h

/-- A value that the check of a counter lets through is read as the value of a counter. -/
theorem counterOf?_of_counterValue {path : String} {raw : List Char}
    (h : hasErrors (counterValue path raw) = false) : (counterOf? raw).isSome := by
  unfold counterValue at h
  unfold counterOf?
  split at h
  · rename_i flag
    simp only [List.contains_cons, List.contains_nil, Bool.or_false, Bool.or_eq_true,
      beq_iff_eq] at flag
    obtain flag | flag := flag <;> simp [flag]
  · dsimp only
    split
    · rfl
    · split
      · rfl
      · split
        · rfl
        · split at h
          · cases h
          · rename_i x read
            have finite : Decimal.isFinite x = true := by simpa using h
            simp [read, finite]

end Check

end Storyworld
