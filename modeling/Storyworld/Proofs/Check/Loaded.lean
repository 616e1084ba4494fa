import Storyworld.Proofs.Check.Document
import Storyworld.Proofs.Check.LoadedEffects
import Storyworld.Proofs.Check.Stops

/-!
Documents that were loaded. A document that the check lets through is let through again after it was
read and written, but for patterns that it has under their second names: only then are they looked
at.
-/

namespace Storyworld

open Schema

/-- A pattern that can be matched. -/
def Pattern.Compiles (p : String) : Prop :=
  ∃ x, compile p.toList = .ok x

def Trigger.patterns (t : Trigger) : List String :=
  t.targetPattern.toList ++ t.textPattern.toList

def Scenario.patterns (sc : Scenario) : List String :=
  sc.situations.flatMap fun e => e.2.rules.flatMap fun r => r.trigger.patterns

/-- A text that entries have under the second of two names and nothing under the first. -/
def TextAside (es : Entries) (first second s : String) : Prop :=
  lookupLast first es = none ∧ lookupLast second es = some (.text s)

theorem TrackDefinition.read_fits {v : Value} {t : TrackDefinition}
    (h : TrackDefinition.read v = .fits t) :
    ∃ es, v = .mapping es ∧ required es ["value"] whole = .fits t.value ∧
      required es ["max"] whole = .fits t.max := by
  simp only [TrackDefinition.read, model_eq_fits, Checked.seq_eq_fits, Checked.map_eq_fits] at h
  obtain ⟨es, rfl, _, _, ⟨_, _, ⟨_, -, rfl⟩, value, rfl⟩, greatest, rfl⟩ := h
  exact ⟨es, rfl, value, greatest⟩

theorem textOption_either {es : Entries} {first second s : String}
    (h : textOption es [first, second] = .fits (some s)) :
    lookupLast first es = some (.text s) ∨ TextAside es first second s := by
  obtain ⟨-, none⟩ | ⟨n, v, found, fit⟩ := optional_eq_fits.1 h
  · cases none
  obtain ⟨-, none⟩ | ⟨s', -, fit, same⟩ := nullable_eq_fits.1 fit
  · cases none
  cases same
  cases text_eq_fits.1 fit
  cases here : lookupLast first es with
  | some w =>
    cases (fieldUnder_first here).symm.trans found
    exact .inl rfl
  | none =>
    simp only [fieldUnder, here, List.findSome?_cons, Option.map_none] at found
    refine .inr ⟨here, ?_⟩
    cases there : lookupLast second es with
    | none => simp [there] at found
    | some w =>
      simp only [there, Option.map_some, Option.some.injEq, Prod.mk.injEq] at found
      rw [found.2]

namespace Check

variable {names more : Names} {path path' : String}

theorem pattern_clean {label p : String} :
    Clean (pattern label path (.text p)) ↔ Pattern.Compiles p := by
  rw [pattern]
  constructor
  · rintro ⟨issues, done, none⟩
    split at done
    · rename_i x compiled
      exact ⟨x, compiled⟩
    · cases done
      cases none
    · cases done
  · rintro ⟨x, compiled⟩
    rw [compiled]
    exact clean_ok.2 rfl

theorem ifPresent_textOption {es : Entries} {key : String} {check : Value → Issues}
    {o : Option String} (here : fieldIn es key = .ofTextOption o) :
    Clean (ifPresent es key check) ↔ ∀ s ∈ o, Clean (check (.text s)) := by
  unfold ifPresent
  rw [here]
  cases o with
  | none => simp [Value.ofTextOption, Value.ofOption, isPresent, clean_ok, hasErrors]
  | some s => simp [Value.ofTextOption, Value.ofOption, isPresent]

theorem entriesOf_mapping (es : Entries) : entriesOf (.mapping es) = es := rfl

theorem fieldIn_recordOf {fields : Entries} (once : (fields.map Prod.fst).Nodup) (key : String) :
    fieldIn (entriesOf (recordOf fields)) key = fieldIn fields key :=
  fieldIn_presentEntries once key

theorem usedAction_clean {v : Value} :
    hasErrors (usedAction names path v) = false ↔ ∃ id, v = .text id ∧ id ∈ names.actions := by
  cases v with
  | text id => simp [usedAction]
  | _ => simp [usedAction, hasErrors, anError]

theorem trigger_clean {es : Entries} : Clean (trigger names path es) ↔
    (∃ id, fieldIn es "actionId" = .text id ∧ id ∈ names.actions) ∧
      Clean (ifPresent es "targetPattern" (pattern "targetPattern" (path ++ ".when"))) ∧
      Clean (ifPresent es "textRegex" (pattern "textRegex" (path ++ ".when"))) ∧
      Clean (ifPresent es "require" (condition "require" (path ++ ".when"))) := by
  simp only [trigger, clean_all, List.forall_mem_cons, clean_ok, usedAction_clean]
  simp

/-- A pattern that a trigger has under a second name. -/
def PatternAside (when : Entries) (p : String) : Prop :=
  TextAside when "targetPattern" "target_pattern" p ∨ TextAside when "textRegex" "text_regex" p

/-- Of the patterns of a trigger, the check lets through those under first names. -/
theorem trigger_pattern {es : Entries} {t : Trigger} (h : Clean (trigger names path es))
    (read : Trigger.read (.mapping es) = .fits t) {p : String} (mem : p ∈ t.patterns) :
    Pattern.Compiles p ∨ PatternAside es p := by
  obtain ⟨es', same, -, fromTarget, fromText, -⟩ := Trigger.read_fits read
  cases same
  obtain ⟨-, onTarget, onText, -⟩ := trigger_clean.1 h
  obtain target | words := List.mem_append.1 mem
  · rw [Option.mem_toList.1 target] at fromTarget
    obtain first | aside := textOption_either fromTarget
    · exact .inl (pattern_clean.1 (ifPresent_clean onTarget first nofun))
    · exact .inr (.inl aside)
  · rw [Option.mem_toList.1 words] at fromText
    obtain first | aside := textOption_either fromText
    · exact .inl (pattern_clean.1 (ifPresent_clean onText first nofun))
    · exact .inr (.inr aside)

theorem trigger_again {es : Entries} {t : Trigger} (h : Clean (trigger names path es))
    (read : Trigger.read (.mapping es) = .fits t) (within : names.Within more) :
    Clean (trigger more path' (entriesOf t.toValue)) ↔ ∀ p ∈ t.patterns, Pattern.Compiles p := by
  obtain ⟨es', same, fromAction, -, -, fromRequire⟩ := Trigger.read_fits read
  cases same
  obtain ⟨⟨id, named, known⟩, -, -, onRequire⟩ := trigger_clean.1 h
  rw [required_here (found_of_fieldIn named nofun), Checked.under_eq_fits, text_eq_fits] at fromAction
  cases fromAction
  have target : fieldIn (entriesOf t.toValue) "targetPattern" = .ofTextOption t.targetPattern :=
    fieldIn_recordOf (by simp) "targetPattern"
  have words : fieldIn (entriesOf t.toValue) "textRegex" = .ofTextOption t.textPattern :=
    fieldIn_recordOf (by simp) "textRegex"
  have action : fieldIn (entriesOf t.toValue) "actionId" = .text t.actionId :=
    fieldIn_recordOf (by simp) "actionId"
  have require : fieldIn (entriesOf t.toValue) "require" = .ofTextOption t.require :=
    fieldIn_recordOf (by simp) "require"
  have parses : ∀ c ∈ t.require, Clean (condition "require" (path' ++ ".when") (.text c)) := by
    intro c written
    have here := textOption_found (Option.mem_def.1 written ▸ fromRequire)
    exact condition_clean (condition_parses (ifPresent_clean onRequire here nofun))
  rw [trigger_clean, ifPresent_textOption target, ifPresent_textOption words,
    ifPresent_textOption require]
  simp only [pattern_clean, Trigger.patterns, List.mem_append, Option.mem_toList, or_imp,
    forall_and]
  constructor
  · rintro ⟨-, targets, wordings, -⟩
    exact ⟨targets, wordings⟩
  · rintro ⟨targets, wordings⟩
    exact ⟨⟨_, action, within.actions _ known⟩, targets, wordings, parses⟩

theorem rule_again {v : Value} {r : Rule} (h : Clean (rule names path v))
    (read : Rule.read v = .fits r) (within : names.Within more) :
    Clean (rule more path' r.toValue) ↔ ∀ p ∈ r.trigger.patterns, Pattern.Compiles p := by
  obtain ⟨es, rfl, fromWhen, fromDo, fromFail⟩ := Rule.read_fits read
  obtain ⟨_, w, found, fit⟩ := required_eq_fits.1 fromWhen
  obtain ⟨ws, rfl, -⟩ := Trigger.read_fits fit
  obtain ⟨-, onTrigger, ⟨v, written, onEffects⟩, onFailure⟩ :=
    (rule_clean (fieldUnder_only found)).1 h
  rw [optional_here written, Checked.under_eq_fits] at fromDo
  have when : fieldIn (entriesOf r.toValue) "when" = .mapping (entriesOf r.trigger.toValue) :=
    fieldIn_recordOf (by simp) "when"
  have doing : fieldIn (entriesOf r.toValue) "do" = effectsValue r.effects :=
    fieldIn_recordOf (by simp) "do"
  have failing : fieldIn (entriesOf r.toValue) "fail" = .ofOption effectsValue r.failure :=
    fieldIn_recordOf (by simp) "fail"
  have action : fieldIn (entriesOf r.trigger.toValue) "actionId" = .text r.trigger.actionId :=
    fieldIn_recordOf (by simp) "actionId"
  have effectsClean : Clean (effects more (path' ++ ".do") (effectsValue r.effects)) :=
    effects_again onEffects fromDo within
  have failureClean : Clean (ifPresent (entriesOf r.toValue) "fail"
      (effects more (path' ++ ".fail"))) := by
    unfold ifPresent
    rw [failing]
    cases failure : r.failure with
    | none => exact clean_ok.2 rfl
    | some fs =>
      obtain ⟨u, written, there, fit⟩ := nullable_found (failure ▸ fromFail)
      exact effects_again (ifPresent_clean onFailure written there) fit within
  have whole : r.toValue = .mapping (entriesOf r.toValue) := rfl
  rw [whole, rule_clean (found_of_fieldIn when nofun), trigger_again onTrigger fit within, action]
  constructor
  · rintro ⟨-, compiles, -⟩
    exact compiles
  · intro compiles
    exact ⟨rfl, compiles, ⟨_, found_of_fieldIn doing nofun, effectsClean⟩, failureClean⟩

theorem rulesFrom_again {vs : List Value} {rs : List Rule} {i : Nat}
    (h : ∀ c ∈ rulesFrom names path i vs, Clean c)
    (read : List.Forall₂ (fun v r => Rule.read v = .fits r) vs rs) (within : names.Within more) :
    (∀ c ∈ rulesFrom more path' i (rs.map Rule.toValue), Clean c) ↔
      ∀ r ∈ rs, ∀ p ∈ r.trigger.patterns, Pattern.Compiles p := by
  induction read generalizing i with
  | nil => simp [rulesFrom]
  | cons first _ ih =>
    rw [rulesFrom, List.forall_mem_cons] at h
    rw [List.map_cons, rulesFrom, List.forall_mem_cons, List.forall_mem_cons, ih h.2]
    exact and_congr_left fun _ => rule_again h.1 first within

theorem allowedActions_texts (as : List String) :
    hasErrors (allowedActions names path (.list (as.map .text))) = false := by
  unfold allowedActions
  split
  · rfl
  · rw [hasErrors_flatMap]
    intro v mem
    obtain ⟨id, -, rfl⟩ := List.mem_map.1 mem
    exact hasErrors_demand_warning ..

theorem situation_again {id : String} {v : Value} {s : Situation}
    (h : Clean (situation names id v)) (read : Situation.read v = .fits s)
    (within : names.Within more) :
    Clean (situation more id s.toValue) ↔
      ∀ r ∈ s.rules, ∀ p ∈ r.trigger.patterns, Pattern.Compiles p := by
  obtain ⟨es, rfl, fromRules, fromEntry⟩ := Situation.read_fits read
  obtain ⟨-, -, onEntry, vs, here, onRules⟩ := situation_clean.1 h
  rw [optional_here (found_of_fieldIn here nofun), Checked.under_eq_fits] at fromRules
  obtain ⟨_, same, fit⟩ := list_eq_fits.1 fromRules
  cases same
  have label : fieldIn (entriesOf s.toValue) "label" = .text s.label :=
    fieldIn_recordOf (by simp) "label"
  have allowed : fieldIn (entriesOf s.toValue) "allowed_actions" =
      .list (s.allowedActions.map .text) := fieldIn_recordOf (by simp) "allowed_actions"
  have entry : fieldIn (entriesOf s.toValue) "auto_enter_if" = .ofTextOption s.enterIf :=
    fieldIn_recordOf (by simp) "auto_enter_if"
  have rules : fieldIn (entriesOf s.toValue) "on_action" = .list (s.rules.map Rule.toValue) :=
    fieldIn_recordOf (by simp) "on_action"
  have parses : ∀ c ∈ s.enterIf,
      Clean (condition "auto_enter_if" ("situations." ++ id) (.text c)) := by
    intro c written
    have here := textOption_found (Option.mem_def.1 written ▸ fromEntry)
    exact ifPresent_clean onEntry here nofun
  have rulesClean : (∀ c ∈ rulesFrom more ("situations." ++ id) 0 (s.rules.map Rule.toValue),
      Clean c) ↔ ∀ r ∈ s.rules, ∀ p ∈ r.trigger.patterns, Pattern.Compiles p :=
    rulesFrom_again onRules fit within
  have whole : s.toValue = .mapping (entriesOf s.toValue) := rfl
  rw [whole, situation_clean, label, allowed, ifPresent_textOption entry, rules, ← rulesClean]
  constructor
  · rintro ⟨-, -, -, _, same, clean⟩
    cases same
    exact clean
  · intro clean
    exact ⟨rfl, allowedActions_texts _, parses, _, rfl, clean⟩

theorem exists_number {v : Value} (h : isNumber v = .ok true) : ∃ n, v.number? = some n := by
  cases v with
  | int i => exact ⟨_, rfl⟩
  | float x => exact ⟨_, rfl⟩
  | _ => cases h

/-- The bounds of a track are let through if they are numbers and its range is not empty. -/
theorem trackBounds_clean {title : String} {value greatest : Value} :
    Clean (trackBounds path title value greatest) ↔ isNumber value = .ok true ∧
      isNumber greatest = .ok true ∧
        ∀ m, greatest.number? = some m → m.lt (.int 0) = false := by
  constructor
  · rintro ⟨issues, done, none⟩
    obtain ⟨b, number, done⟩ := bind_eq_ok.1 done
    cases b with
    | false =>
      cases done
      cases none
    | true =>
      obtain ⟨b, number', done⟩ := bind_eq_ok.1 done
      cases b with
      | false =>
        cases done
        cases none
      | true =>
        refine ⟨number, number', fun m same => ?_⟩
        obtain ⟨n, there⟩ := exists_number number
        by_contra negative
        simp only [there, same, eq_true_of_ne_false negative, Bool.not_true, Bool.false_eq_true,
          if_false, if_true] at done
        cases done
        cases none
  · rintro ⟨number, number', positive⟩
    obtain ⟨n, there⟩ := exists_number number
    obtain ⟨m, there'⟩ := exists_number number'
    obtain ⟨s, shown⟩ := plain_of_isNumber number
    obtain ⟨t, shown'⟩ := plain_of_isNumber number'
    have whole := positive m there'
    unfold trackBounds
    rw [number, number', there, there', shown, shown']
    simp only [whole, Bool.false_eq_true, if_false]
    cases (Number.int 0).le n && n.le m with
    | true => exact ⟨_, rfl, rfl⟩
    | false => exact ⟨_, rfl, rfl⟩

theorem missingFields_clean {title : String} {es : Entries} {fields : List String} :
    hasErrors (missingFields path title es fields) = false ↔
      ∀ field ∈ fields, isPresent (fieldIn es field) = true := by
  simp [missingFields, hasErrors_flatMap]

theorem track_clean {id : String} {es : Entries} : Clean (track id (.mapping es)) ↔
    (∀ field ∈ ["name", "value", "max"], isPresent (fieldIn es field) = true) ∧
      Clean (trackBounds ("tracks." ++ id) ("Track \"" ++ id ++ "\"") (fieldIn es "value")
        (fieldIn es "max")) := by
  rw [track, missingFields_isEmpty]
  split
  · rename_i complete
    exact (and_iff_right (List.all_eq_true.1 complete)).symm
  · rename_i incomplete
    rw [clean_ok, missingFields_clean, ← List.all_eq_true]
    exact iff_of_false incomplete fun h => incomplete h.1

/-- A number for the check that is read as a whole number is one, and has the same sign. -/
theorem whole_again {v : Value} {i : Int} (number : isNumber v = .ok true)
    (read : whole v = .fits i) : isNumber (.int i) = .ok true ∧
      ∀ n, v.number? = some n → n.lt (.int 0) = Number.lt (.int i) (.int 0) := by
  cases v with
  | int j =>
    cases read
    exact ⟨number, fun n same => by cases same; rfl⟩
  | float x =>
    simp only [whole, wholeOfFloat] at read
    split at read
    · split at read
      · rename_i j same
        split at read
        · rename_i small
          cases read
          refine ⟨?_, fun n there => ?_⟩
          · have below := Nat.lt_of_lt_of_le small (Decimal.pow2_le_floatBound (by decide))
            obtain ⟨y, stands⟩ := Decimal.ofWhole_eq_ok_iff.2 below
            exact map_eq_ok.2 ⟨y, stands, rfl⟩
          · cases there
            rw [Number.lt, Number.lt, Number.cmp, Number.cmp, Decimal.compareWith_toWhole? same,
              Option.map_some, Int.compare_swap]
        · cases read
      · cases read
    · cases read
  | _ => cases number

theorem track_again {id : String} {v : Value} {t : TrackDefinition} (h : Clean (track id v))
    (read : TrackDefinition.read v = .fits t) : Clean (track id t.toValue) := by
  obtain ⟨es, rfl, fromValue, fromMax⟩ := TrackDefinition.read_fits read
  obtain ⟨_, v, found, valueFit⟩ := required_eq_fits.1 fromValue
  obtain ⟨_, w, found', maxFit⟩ := required_eq_fits.1 fromMax
  obtain ⟨-, clean⟩ := track_clean.1 h
  rw [fieldIn_of_found (fieldUnder_only found), fieldIn_of_found (fieldUnder_only found'),
    trackBounds_clean] at clean
  obtain ⟨number, number', positive⟩ := clean
  obtain ⟨m, there⟩ := exists_number number'
  have name : fieldIn (entriesOf t.toValue) "name" = .text t.name :=
    fieldIn_recordOf (by simp) "name"
  have value : fieldIn (entriesOf t.toValue) "value" = .int t.value :=
    fieldIn_recordOf (by simp) "value"
  have greatest : fieldIn (entriesOf t.toValue) "max" = .int t.max :=
    fieldIn_recordOf (by simp) "max"
  have whole : t.toValue = .mapping (entriesOf t.toValue) := rfl
  rw [whole, track_clean, value, greatest, trackBounds_clean]
  refine ⟨by simp [name, value, greatest, isPresent], (whole_again number valueFit).1,
    (whole_again number' maxFit).1, fun n same => ?_⟩
  cases same
  rw [← (whole_again number' maxFit).2 m there]
  exact positive m there

theorem counters_clean {es : Entries} : hasErrors (counters (some (.mapping es))) = false ↔
    ∀ e ∈ es, isCounter e.2 = true := by
  simp [counters, hasErrors_flatMap]

/-- A counter for the check stays as it is when it is read. -/
theorem counter_toValue {v : Value} {c : Counter} (counter : isCounter v = true)
    (read : Counter.read v = .fits c) : c.toValue = v := by
  cases v with
  | bool b =>
    cases read
    rfl
  | int i =>
    cases read
    rfl
  | float x =>
    cases read
    rfl
  | _ => cases counter

theorem counters_again {es : Entries} {cs : Counters}
    (h : hasErrors (counters (lookupLast "counters" es)) = false)
    (read : optional es ["counters"] [] (mapping Counter.read) = .fits cs) :
    hasErrors (counters (some (countersValue cs))) = false := by
  rw [countersValue, counters_clean]
  obtain ⟨-, rfl⟩ | ⟨_, v, found, fit⟩ := optional_eq_fits.1 read
  · exact nofun
  · obtain ⟨vs, -, rfl, -⟩ := mapping_eq_fits.1 fit
    rw [fieldUnder_only found, counters_clean] at h
    intro e mem
    obtain ⟨⟨k, c⟩, inside, rfl⟩ := List.mem_map.1 mem
    obtain ⟨w, written, fit⟩ := mapping_mem fit k c inside
    have counter := h _ written
    rwa [counter_toValue counter fit]

theorem start_clean {v : Value} :
    hasErrors (start names v) = false ↔ ∃ id, v = .text id ∧ id ∈ names.situations := by
  cases v with
  | text id => simp [start]
  | _ => simp [start, hasErrors, anError]

theorem opening_again {v : Value} {o : Opening} (h : hasErrors (opening names v) = false)
    (read : Opening.read v = .fits o) (within : names.Within more) :
    hasErrors (opening more o.toValue) = false := by
  obtain ⟨es, rfl, fromSituation, fromCounters⟩ := Opening.read_fits read
  simp only [opening, hasErrors_append, Bool.or_eq_false_iff, start_clean] at h
  obtain ⟨⟨id, named, known⟩, onCounters⟩ := h
  rw [required_here (found_of_fieldIn named nofun), Checked.under_eq_fits, text_eq_fits]
    at fromSituation
  cases fromSituation
  have place : fieldIn (entriesOf o.toValue) "situation" = .text o.situation :=
    fieldIn_recordOf (by simp) "situation"
  have values : fieldIn (entriesOf o.toValue) "counters" = countersValue o.counters :=
    fieldIn_recordOf (by simp) "counters"
  have whole : o.toValue = .mapping (entriesOf o.toValue) := rfl
  rw [whole, opening, hasErrors_append, Bool.or_eq_false_iff, start_clean,
    found_of_fieldIn values nofun]
  exact ⟨⟨_, place, within.situations _ known⟩, counters_again onCounters fromCounters⟩

/-- A rule of a situation of a document. -/
def RuleOf (doc : Entries) (v : Value) : Prop :=
  ∃ e ∈ entriesOf (fieldIn doc "situations"), ∃ vs,
    fieldIn (entriesOf e.2) "on_action" = .list vs ∧ v ∈ vs

/-- A pattern that a rule of a document has under a second name. -/
def HasPatternAside (doc : Entries) (p : String) : Prop :=
  ∃ v, RuleOf doc v ∧ PatternAside (entriesOf (fieldIn (entriesOf v) "when")) p

theorem fieldIn_toValue (sc : Scenario) :
    fieldIn (entriesOf sc.toValue) "actions" =
        .mapping (sc.actions.map fun e => (e.1, e.2.toValue)) ∧
      fieldIn (entriesOf sc.toValue) "initial" = sc.opening.toValue ∧
      fieldIn (entriesOf sc.toValue) "tracks" =
        .mapping (sc.tracks.map fun e => (e.1, e.2.toValue)) ∧
      fieldIn (entriesOf sc.toValue) "situations" =
        .mapping (sc.situations.map fun e => (e.1, e.2.toValue)) :=
  ⟨fieldIn_recordOf (by simp) "actions", fieldIn_recordOf (by simp) "initial",
    fieldIn_recordOf (by simp) "tracks", fieldIn_recordOf (by simp) "situations"⟩

theorem shape_toValue (sc : Scenario) : hasErrors (shape (entriesOf sc.toValue)) = false := by
  obtain ⟨actions, opening, tracks, situations⟩ := fieldIn_toValue sc
  have id : fieldIn (entriesOf sc.toValue) "id" = .text sc.id := fieldIn_recordOf (by simp) "id"
  have title : fieldIn (entriesOf sc.toValue) "title" = .text sc.title :=
    fieldIn_recordOf (by simp) "title"
  have language : fieldIn (entriesOf sc.toValue) "language" = .text sc.language.name :=
    fieldIn_recordOf (by simp) "language"
  have initial : fieldIn (entriesOf sc.toValue) "initial" =
      .mapping (entriesOf sc.opening.toValue) := opening
  rw [shape_clean]
  simp [requiredFields, id, title, language, actions, initial, tracks, situations, isPresent,
    isMapping]

theorem namesOf_toValue (sc : Scenario) : namesOf (entriesOf sc.toValue) =
    ⟨sc.actions.map Prod.fst, sc.tracks.map Prod.fst, sc.situations.map Prod.fst,
      sc.opening.counters.map Prod.fst⟩ := by
  obtain ⟨actions, opening, tracks, situations⟩ := fieldIn_toValue sc
  have counters : fieldIn (entriesOf sc.opening.toValue) "counters" =
      countersValue sc.opening.counters := fieldIn_recordOf (by simp) "counters"
  simp only [namesOf, actions, opening, tracks, situations, counters, countersValue,
    entriesOf_mapping, List.map_map, Function.comp_def]

theorem names_within {doc : Entries} {sc : Scenario} (shaped : hasErrors (shape doc) = false)
    (read : Scenario.read (.mapping doc) = .fits sc) :
    (namesOf doc).Within (namesOf (entriesOf sc.toValue)) := by
  obtain ⟨fromActions, fromInitial, fromTracks, fromSituations⟩ := Scenario.read_fits read
  obtain ⟨as, actions⟩ := mapping_of_shape "actions" shaped (by simp)
  obtain ⟨ts, tracks⟩ := mapping_of_shape "tracks" shaped (by simp)
  obtain ⟨ss, situations⟩ := mapping_of_shape "situations" shaped (by simp)
  rw [required_here actions, Checked.under_eq_fits] at fromActions
  rw [optional_here tracks, Checked.under_eq_fits] at fromTracks
  rw [required_here situations, Checked.under_eq_fits] at fromSituations
  obtain ⟨_, v, found, fit⟩ := required_eq_fits.1 fromInitial
  obtain ⟨os, rfl, -, fromCounters⟩ := Opening.read_fits fit
  rw [namesOf_toValue]
  simp only [namesOf, fieldIn_of_found actions, fieldIn_of_found tracks,
    fieldIn_of_found situations, fieldIn_of_found (fieldUnder_only found), entriesOf_mapping]
  exact ⟨fun k => (mapping_keys fromActions).2, fun k => (mapping_keys fromTracks).2,
    fun k => (mapping_keys fromSituations).2, opening_counters fromCounters⟩

theorem actionDetail_toValue (id : String) (d : ActionDetail) :
    hasErrors (actionDetail id d.toValue) = false := by
  have label : fieldIn (entriesOf d.toValue) "label" = .text d.label :=
    fieldIn_recordOf (by simp) "label"
  have icon : fieldIn (entriesOf d.toValue) "icon" = .text d.icon :=
    fieldIn_recordOf (by simp) "icon"
  have whole : d.toValue = .mapping (entriesOf d.toValue) := rfl
  rw [whole, actionDetail, missingFields_clean]
  simp [label, icon, isPresent]

theorem document_again {doc : Entries} {sc : Scenario} (h : Clean (document doc))
    (read : Scenario.read (.mapping doc) = .fits sc) :
    Clean (scenario sc) ↔ ∀ p ∈ sc.patterns, Pattern.Compiles p := by
  obtain ⟨shaped, -, onTracks, onOpening, onSituations⟩ := document_clean.1 h
  have within := names_within shaped read
  obtain ⟨-, fromInitial, fromTracks, fromSituations⟩ := Scenario.read_fits read
  obtain ⟨ts, tracksHere⟩ := mapping_of_shape "tracks" shaped (by simp)
  obtain ⟨ss, situationsHere⟩ := mapping_of_shape "situations" shaped (by simp)
  obtain ⟨_, v, found, openingFit⟩ := required_eq_fits.1 fromInitial
  rw [optional_here tracksHere, Checked.under_eq_fits] at fromTracks
  rw [required_here situationsHere, Checked.under_eq_fits] at fromSituations
  rw [fieldIn_of_found tracksHere] at onTracks
  rw [fieldIn_of_found (fieldUnder_only found)] at onOpening
  rw [fieldIn_of_found situationsHere] at onSituations
  obtain ⟨actions, opening, tracks, situations⟩ := fieldIn_toValue sc
  rw [scenario, document_clean, actions, opening, tracks, situations]
  have tracksClean : ∀ e ∈ sc.tracks, Clean (track e.1 e.2.toValue) := by
    intro e mem
    obtain ⟨w, inside, fit⟩ := mapping_mem fromTracks e.1 e.2 mem
    have clean : Clean (track e.1 w) := onTracks (e.1, w) inside
    exact track_again clean fit
  have situationsClean : (∀ e ∈ sc.situations,
      Clean (situation (namesOf (entriesOf sc.toValue)) e.1 e.2.toValue)) ↔
        ∀ p ∈ sc.patterns, Pattern.Compiles p := by
    simp only [Scenario.patterns, List.forall_mem_flatMap]
    refine forall₂_congr fun e mem => ?_
    obtain ⟨w, inside, fit⟩ := mapping_mem fromSituations e.1 e.2 mem
    have clean : Clean (situation (namesOf doc) e.1 w) := onSituations (e.1, w) inside
    exact situation_again clean fit within
  simp only [entriesOf_mapping, List.forall_mem_map]
  constructor
  · rintro ⟨-, -, -, -, clean⟩
    exact situationsClean.1 clean
  · intro compiles
    exact ⟨shape_toValue sc, fun e _ => actionDetail_toValue e.1 e.2, tracksClean,
      opening_again onOpening openingFit within, situationsClean.2 compiles⟩

theorem rule_pattern {v : Value} {r : Rule} (h : Clean (rule names path v))
    (read : Rule.read v = .fits r) {p : String} (mem : p ∈ r.trigger.patterns) :
    Pattern.Compiles p ∨ PatternAside (entriesOf (fieldIn (entriesOf v) "when")) p := by
  obtain ⟨es, rfl, fromWhen, -⟩ := Rule.read_fits read
  obtain ⟨_, w, found, fit⟩ := required_eq_fits.1 fromWhen
  obtain ⟨ws, rfl, -⟩ := Trigger.read_fits fit
  obtain ⟨-, onTrigger, -⟩ := (rule_clean (fieldUnder_only found)).1 h
  rw [entriesOf_mapping, fieldIn_of_found (fieldUnder_only found), entriesOf_mapping]
  exact trigger_pattern onTrigger fit mem

theorem situation_pattern {id : String} {v : Value} {s : Situation}
    (h : Clean (situation names id v)) (read : Situation.read v = .fits s) {r : Rule}
    (inside : r ∈ s.rules) {p : String} (mem : p ∈ r.trigger.patterns) :
    Pattern.Compiles p ∨ ∃ vs, fieldIn (entriesOf v) "on_action" = .list vs ∧
      ∃ w ∈ vs, PatternAside (entriesOf (fieldIn (entriesOf w) "when")) p := by
  obtain ⟨es, rfl, fromRules, -⟩ := Situation.read_fits read
  obtain ⟨-, -, -, vs, here, onRules⟩ := situation_clean.1 h
  rw [optional_here (found_of_fieldIn here nofun), Checked.under_eq_fits] at fromRules
  obtain ⟨w, listed, fit⟩ := list_mem fromRules r inside
  obtain ⟨path', checked⟩ := mem_rulesFrom listed
  exact (rule_pattern (onRules _ checked) fit mem).imp_right fun aside =>
    ⟨vs, here, w, listed, aside⟩

theorem document_pattern {doc : Entries} {sc : Scenario} (h : Clean (document doc))
    (read : Scenario.read (.mapping doc) = .fits sc) {p : String} (mem : p ∈ sc.patterns) :
    Pattern.Compiles p ∨ HasPatternAside doc p := by
  obtain ⟨shaped, -, -, -, onSituations⟩ := document_clean.1 h
  obtain ⟨-, -, -, fromSituations⟩ := Scenario.read_fits read
  obtain ⟨ss, here⟩ := mapping_of_shape "situations" shaped (by simp)
  rw [required_here here, Checked.under_eq_fits] at fromSituations
  rw [fieldIn_of_found here] at onSituations
  obtain ⟨⟨id, s⟩, listed, mem⟩ := List.mem_flatMap.1 mem
  obtain ⟨r, inside, mem⟩ := List.mem_flatMap.1 mem
  obtain ⟨v, written, fit⟩ := mapping_mem fromSituations id s listed
  have clean : Clean (situation (namesOf doc) id v) := onSituations (id, v) written
  obtain compiles | ⟨vs, rules, w, rule, aside⟩ := situation_pattern clean fit inside mem
  · exact .inl compiles
  · refine .inr ⟨w, ⟨(id, v), ?_, vs, rules, rule⟩, aside⟩
    rwa [fieldIn_of_found here]

/-- A scenario whose document is let through is let through itself exactly if its patterns compile,
and a pattern that does not stands under a second name. -/
theorem loaded_scenario_passes_iff_patterns_compile {doc : Entries} {issues : List Issue}
    {sc : Scenario} (done : document doc = .ok issues) (none : hasErrors issues = false)
    (read : Scenario.read (.mapping doc) = .fits sc) :
    ((∃ more, scenario sc = .ok more ∧ hasErrors more = false) ↔
      ∀ p ∈ sc.patterns, Pattern.Compiles p) ∧
        ∀ p ∈ sc.patterns, ¬ Pattern.Compiles p → HasPatternAside doc p := by
  have clean : Clean (document doc) := ⟨issues, done, none⟩
  refine ⟨document_again clean read, fun p mem broken => ?_⟩
  exact (document_pattern clean read mem).resolve_left broken

/-- A hatch that opens for what fits a pattern, which is written under its second name. -/
def hatch (p : String) : Entries := [
    ("id", .text "hatch"),
    ("title", .text "The hatch"),
    ("language", .text "en"),
    ("actions", .mapping [("open", .mapping [("label", .text "Open"), ("icon", .text "Hand")])]),
    ("initial", .mapping [("situation", .text "deck")]),
    ("tracks", .mapping [
      ("rust", .mapping [("name", .text "Rust"), ("value", .int 2), ("max", .int 5)])]),
    ("situations", .mapping [
      ("deck", .mapping [
        ("label", .text "Deck"),
        ("on_action", .list [.mapping [
          ("when", .mapping [("actionId", .text "open"), ("target_pattern", .text p)]),
          ("do", .list [])]]),
        ("ending", .bool true)])])]

def hatchScenario (p : String) : Scenario where
  version := 1
  id := "hatch"
  title := "The hatch"
  description := ""
  language := .en
  theme := none
  actions := [("open", ⟨"Open", "Hand", none⟩)]
  opening := ⟨"deck", [], []⟩
  tracks := [("rust", ⟨"Rust", 2, 5⟩)]
  situations := [
    ("deck", {
      label := "Deck"
      description := none
      allowedActions := []
      rules := [⟨⟨"open", some p, none, none⟩, [], none⟩]
      enterIf := none
      ending := true })]
  hints := none

theorem loaded_scenario_passes_hatch :
    document (hatch "lid") = .ok [] ∧ hasErrors [] = false ∧
      Scenario.read (.mapping (hatch "lid")) = .fits (hatchScenario "lid") ∧
      ∃ more, scenario (hatchScenario "lid") = .ok more ∧ hasErrors more = false := by
  have done : document (hatch "lid") = .ok [] := by decide +kernel
  have read : Scenario.read (.mapping (hatch "lid")) = .fits (hatchScenario "lid") := by cbv
  have compiles : Pattern.Compiles "lid" := ⟨_, rfl⟩
  obtain ⟨passes, -⟩ := loaded_scenario_passes_iff_patterns_compile done rfl read
  refine ⟨done, rfl, read, passes.2 fun p mem => ?_⟩
  cases List.mem_singleton.1 mem
  exact compiles

/-- The check of a document does not look at a pattern under its second name, that of the loaded
scenario does. -/
theorem unread_pattern_hatch :
    document (hatch "(") = .ok [] ∧
      Scenario.read (.mapping (hatch "(")) = .fits (hatchScenario "(") ∧
      ∃ issues, scenario (hatchScenario "(") = .ok issues ∧ hasErrors issues = true := by
  have done : document (hatch "(") = .ok [] := by decide +kernel
  have read : Scenario.read (.mapping (hatch "(")) = .fits (hatchScenario "(") := by cbv
  have found : (scenario (hatchScenario "(")).map hasErrors = .ok true := by decide +kernel
  obtain ⟨issues, checked, some⟩ := map_eq_ok.1 found
  exact ⟨done, read, issues, checked, some⟩

end Check

end Storyworld
