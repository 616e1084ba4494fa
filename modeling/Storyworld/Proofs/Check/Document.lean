import Storyworld.Check.Document
import Storyworld.Proofs.Check.Effects
import Storyworld.Proofs.Turn.Course

/-!
Scenarios whose document the check lets through. The check works on plain values, so every part of
such a scenario is traced back to the value that it was read from.
-/

namespace Storyworld

open Schema

/-- An effect with an action that can be read and refers to what is there, and with a guard that
parses. -/
structure Effect.Sound (counters tracks : List String) (e : Effect) : Prop where
  aims : (∀ a, e.action? = some a → a.ShortAmount) →
    ∃ a, e.action? = some a ∧ a.Aims counters tracks
  guard : ∀ c, e.guard? = some c → Condition.Parses c

theorem Effect.Sound.mono {counters tracks counters' tracks' : List String} {e : Effect}
    (h : e.Sound counters tracks) (moreCounters : ∀ k ∈ counters, k ∈ counters')
    (moreTracks : ∀ k ∈ tracks, k ∈ tracks') : e.Sound counters' tracks' := by
  refine ⟨fun short => ?_, h.guard⟩
  obtain ⟨a, acts, aims⟩ := h.aims short
  exact ⟨a, acts, aims.mono moreCounters moreTracks⟩

/-- A scenario in which every effect is sound and every condition parses. -/
structure Scenario.Sound (sc : Scenario) : Prop where
  effects : ∀ e ∈ sc.effects,
    e.Sound (sc.opening.counters.map Prod.fst) (sc.tracks.map Prod.fst)
  require : ∀ id situation, (id, situation) ∈ sc.situations → ∀ r ∈ situation.rules, ∀ c,
    r.trigger.require = some c → Condition.Parses c
  entry : ∀ id situation, (id, situation) ∈ sc.situations → ∀ c,
    situation.enterIf = some c → Condition.Parses c

theorem textOption_found {es : Entries} {key c : String}
    (h : textOption es [key] = .fits (some c)) : lookupLast key es = some (.text c) := by
  obtain ⟨v, here, -, fit⟩ := nullable_found h
  rw [here, text_eq_fits.1 fit]

theorem Trigger.read_fits {v : Value} {t : Trigger} (h : Trigger.read v = .fits t) :
    ∃ es, v = .mapping es ∧ required es ["actionId", "action_id"] text = .fits t.actionId ∧
      textOption es ["targetPattern", "target_pattern"] = .fits t.targetPattern ∧
      textOption es ["textRegex", "text_regex"] = .fits t.textPattern ∧
      textOption es ["require"] = .fits t.require := by
  simp only [Trigger.read, model_eq_fits, Checked.seq_eq_fits, Checked.map_eq_fits] at h
  obtain ⟨es, rfl, _, _, ⟨_, _, ⟨_, _, ⟨_, action, rfl⟩, target, rfl⟩, words, rfl⟩, require, rfl⟩ := h
  exact ⟨es, rfl, action, target, words, require⟩

theorem Rule.read_fits {v : Value} {r : Rule} (h : Rule.read v = .fits r) :
    ∃ es, v = .mapping es ∧ required es ["when"] Trigger.read = .fits r.trigger ∧
      optional es ["do", "do_"] [] (list Effect.read) = .fits r.effects ∧
      optional es ["fail"] none (nullable (list Effect.read)) = .fits r.failure := by
  simp only [Rule.read, model_eq_fits, Checked.seq_eq_fits, Checked.map_eq_fits] at h
  obtain ⟨es, rfl, _, _, ⟨_, _, ⟨_, trigger, rfl⟩, effects, rfl⟩, failure, rfl⟩ := h
  exact ⟨es, rfl, trigger, effects, failure⟩

theorem Situation.read_fits {v : Value} {s : Situation} (h : Situation.read v = .fits s) :
    ∃ es, v = .mapping es ∧ optional es ["on_action"] [] (list Rule.read) = .fits s.rules ∧
      textOption es ["auto_enter_if"] = .fits s.enterIf := by
  simp only [Situation.read, model_eq_fits, Checked.seq_eq_fits, Checked.map_eq_fits] at h
  obtain ⟨es, rfl, _, _, ⟨_, _, ⟨_, _, ⟨_, _, ⟨_, _, ⟨_, -, rfl⟩, -, rfl⟩, -, rfl⟩,
    rules, rfl⟩, entry, rfl⟩, -, rfl⟩ := h
  exact ⟨es, rfl, rules, entry⟩

theorem Opening.read_fits {v : Value} {o : Opening} (h : Opening.read v = .fits o) :
    ∃ es, v = .mapping es ∧ required es ["situation"] text = .fits o.situation ∧
      optional es ["counters"] [] (mapping Counter.read) = .fits o.counters := by
  simp only [Opening.read, model_eq_fits, Checked.seq_eq_fits, Checked.map_eq_fits] at h
  obtain ⟨es, rfl, _, _, ⟨_, _, ⟨_, situation, rfl⟩, counters, rfl⟩, -, rfl⟩ := h
  exact ⟨es, rfl, situation, counters⟩

theorem Scenario.read_fits {doc : Entries} {sc : Scenario}
    (h : Scenario.read (.mapping doc) = .fits sc) :
    required doc ["actions"] (mapping ActionDetail.read) = .fits sc.actions ∧
      required doc ["initial"] Opening.read = .fits sc.opening ∧
      optional doc ["tracks"] [] (mapping TrackDefinition.read) = .fits sc.tracks ∧
      required doc ["situations"] (mapping Situation.read) = .fits sc.situations := by
  simp only [Scenario.read, model, Checked.seq_eq_fits, Checked.map_eq_fits] at h
  obtain ⟨_, _, ⟨_, _, ⟨_, _, ⟨_, _, ⟨_, _, ⟨_, _, ⟨_, _, ⟨_, _, ⟨_, _, ⟨_, _, ⟨_, -, rfl⟩,
    -, rfl⟩, -, rfl⟩, -, rfl⟩, -, rfl⟩, -, rfl⟩, actions, rfl⟩, opening, rfl⟩, tracks, rfl⟩,
    situations, rfl⟩, -, rfl⟩ := h
  exact ⟨actions, opening, tracks, situations⟩

namespace Check

variable {names : Names} {path : String}

theorem ifPresent_here {es : Entries} {key : String} {check : Value → Issues} {v : Value}
    (here : lookupLast key es = some v) (there : v ≠ .null) : ifPresent es key check = check v := by
  have present : isPresent v = true := by cases v <;> simp_all [isPresent]
  simp [ifPresent, fieldIn_of_found here, present]

theorem ifPresent_clean {es : Entries} {key : String} {check : Value → Issues} {v : Value}
    (h : Clean (ifPresent es key check)) (here : lookupLast key es = some v) (there : v ≠ .null) :
    Clean (check v) := by
  rwa [ifPresent_here here there] at h

theorem mem_effectsFrom {i : Nat} {vs : List Value} {v : Value} (mem : v ∈ vs) :
    ∃ path' isLast, effect names path' isLast v ∈ effectsFrom names path i vs := by
  induction vs generalizing i with
  | nil => cases mem
  | cons w rest ih =>
    obtain rfl | later := List.mem_cons.1 mem
    · exact ⟨_, _, List.mem_cons_self⟩
    · obtain ⟨path', isLast, inside⟩ := ih (i := i + 1) later
      exact ⟨path', isLast, List.mem_cons_of_mem _ inside⟩

theorem mem_rulesFrom {i : Nat} {vs : List Value} {v : Value} (mem : v ∈ vs) :
    ∃ path', rule names path' v ∈ rulesFrom names path i vs := by
  induction vs generalizing i with
  | nil => cases mem
  | cons w rest ih =>
    obtain rfl | later := List.mem_cons.1 mem
    · exact ⟨_, List.mem_cons_self⟩
    · obtain ⟨path', inside⟩ := ih (i := i + 1) later
      exact ⟨path', List.mem_cons_of_mem _ inside⟩

theorem effect_sound {isLast : Bool} {v : Value} {e : Effect}
    (h : Clean (effect names path isLast v)) (read : Effect.read v = .fits e) :
    e.Sound names.counters names.tracks := by
  obtain ⟨es, rfl, -⟩ := model_eq_fits.1 read
  obtain ⟨key, one⟩ := effect_oneAction h
  refine ⟨fun short => ?_, fun c guard => one.guard_parses read guard⟩
  obtain ⟨a, acts, made⟩ := one.exists_action read
  exact ⟨a, acts, one.action_aims made (short a acts)⟩

theorem effects_sound {v : Value} {effects : List Effect} (h : Clean (Check.effects names path v))
    (read : list Effect.read v = .fits effects) :
    ∀ e ∈ effects, e.Sound names.counters names.tracks := by
  obtain ⟨vs, rfl, -⟩ := list_eq_fits.1 read
  intro e mem
  obtain ⟨w, inside, fit⟩ := list_mem read e mem
  have each := clean_all.1 h
  obtain ⟨path', isLast, checked⟩ := mem_effectsFrom inside
  exact effect_sound (each _ checked) fit

/-- A rule that is let through has a clean trigger and clean lists of effects. -/
theorem rule_clean {es ws : Entries} (here : lookupLast "when" es = some (.mapping ws)) :
    Clean (rule names path (.mapping es)) ↔ isPresent (fieldIn ws "actionId") = true ∧
      Clean (trigger names path ws) ∧
      (∃ v, lookupLast "do" es = some v ∧ Clean (effects names (path ++ ".do") v)) ∧
      Clean (ifPresent es "fail" (effects names (path ++ ".fail"))) := by
  simp only [rule, fieldIn_of_found here, entriesOf]
  split
  · rename_i named
    simp only [named, true_and, clean_all, List.forall_mem_cons]
    refine and_congr_right fun _ => and_congr ?_ (and_iff_left nofun)
    cases lookupLast "do" es with
    | none => simp [clean_ok, hasErrors, anError]
    | some v => simp
  · rename_i unnamed
    simp [unnamed, clean_ok, hasErrors, anError]

/-- A rule whose effects are sound and whose condition parses. -/
structure RuleSound (names : Names) (r : Rule) : Prop where
  effects : ∀ success, ∀ e ∈ r.effectsFor success, e.Sound names.counters names.tracks
  require : ∀ c, r.trigger.require = some c → Condition.Parses c

theorem rule_sound {v : Value} {r : Rule} (h : Clean (rule names path v))
    (read : Rule.read v = .fits r) : RuleSound names r := by
  obtain ⟨es, rfl, fromWhen, fromDo, fromFail⟩ := Rule.read_fits read
  obtain ⟨_, w, found, fit⟩ := required_eq_fits.1 fromWhen
  have here := fieldUnder_only found
  obtain ⟨ws, rfl, -, -, -, fromRequire⟩ := Trigger.read_fits fit
  obtain ⟨-, onTrigger, ⟨v, written, onEffects⟩, onFailure⟩ := (rule_clean here).1 h
  refine ⟨fun success e mem => ?_, fun c written => ?_⟩
  · cases success with
    | true =>
      rw [optional_here written, Checked.under_eq_fits] at fromDo
      exact effects_sound onEffects fromDo e mem
    | false =>
      cases failure : r.failure with
      | none => simp [Rule.effectsFor, failure] at mem
      | some more =>
        obtain ⟨v, written, there, fit⟩ := nullable_found (failure ▸ fromFail)
        have clean := ifPresent_clean onFailure written there
        exact effects_sound clean fit e (by simpa [Rule.effectsFor, failure] using mem)
  · simp only [trigger, clean_all, List.forall_mem_cons] at onTrigger
    obtain ⟨-, -, -, onRequire, -⟩ := onTrigger
    have here := textOption_found (written ▸ fromRequire)
    exact condition_parses (ifPresent_clean onRequire here nofun)

/-- A situation that is let through has a label and a list of clean rules. -/
theorem situation_clean {id : String} {es : Entries} :
    Clean (situation names id (.mapping es)) ↔ isPresent (fieldIn es "label") = true ∧
      hasErrors (allowedActions names ("situations." ++ id ++ ".allowed_actions")
        (fieldIn es "allowed_actions")) = false ∧
      Clean (ifPresent es "auto_enter_if" (condition "auto_enter_if" ("situations." ++ id))) ∧
      ∃ vs, fieldIn es "on_action" = .list vs ∧
        ∀ c ∈ rulesFrom names ("situations." ++ id) 0 vs, Clean c := by
  simp only [situation, clean_all, clean_ok, List.forall_mem_cons, missingFields,
    List.flatMap_cons, List.flatMap_nil, List.append_nil, hasErrors_demand, Bool.not_eq_false']
  refine and_congr_right fun _ => and_congr_right fun _ => and_congr_right fun _ => ?_
  rw [and_iff_left nofun]
  cases fieldIn es "on_action" with
  | list vs => simp [clean_all]
  | _ => simp [clean_ok, hasErrors, anError]

theorem situation_sound {id : String} {v : Value} {s : Situation}
    (h : Clean (situation names id v)) (read : Situation.read v = .fits s) :
    (∀ r ∈ s.rules, RuleSound names r) ∧ ∀ c, s.enterIf = some c → Condition.Parses c := by
  obtain ⟨es, rfl, fromRules, fromEntry⟩ := Situation.read_fits read
  obtain ⟨-, -, onEntry, vs, here, onRules⟩ := situation_clean.1 h
  refine ⟨fun r mem => ?_, fun c written => ?_⟩
  · rw [optional_here (found_of_fieldIn here nofun), Checked.under_eq_fits] at fromRules
    obtain ⟨w, inside, fit⟩ := list_mem fromRules r mem
    obtain ⟨path', checked⟩ := mem_rulesFrom inside
    exact rule_sound (onRules _ checked) fit
  · have here := textOption_found (written ▸ fromEntry)
    exact condition_parses (ifPresent_clean onEntry here nofun)

/-- The fields at the top are there, and those with names in them are mappings. -/
theorem shape_clean {doc : Entries} : hasErrors (shape doc) = false ↔
    (∀ field ∈ requiredFields, isPresent (fieldIn doc field) = true) ∧
      ∀ field ∈ ["actions", "tracks", "situations"], isMapping (fieldIn doc field) = true := by
  have listed : ∀ field ∈ ["actions", "tracks", "situations"], field ∈ requiredFields := by decide
  simp only [shape, hasErrors_append, Bool.or_eq_false_iff, hasErrors_flatMap, hasErrors_demand,
    Bool.not_eq_false']
  refine and_congr_right fun present => forall₂_congr fun field mem => ?_
  rw [present field (listed field mem), Bool.not_true, Bool.false_or]

theorem shape_eq_nil {doc : Entries} (h : hasErrors (shape doc) = false) : shape doc = [] := by
  simp only [shape, hasErrors_append, Bool.or_eq_false_iff, hasErrors_flatMap, hasErrors_demand,
    Bool.not_eq_false'] at h
  obtain ⟨present, mappings⟩ := h
  simp only [shape, List.append_eq_nil_iff, List.flatMap_eq_nil_iff]
  exact ⟨fun field mem => if_pos (present field mem), fun field mem => if_pos (mappings field mem)⟩

theorem endings_clean (situations : Entries) : hasErrors (endings situations) = false := by
  unfold endings
  split <;> rfl

/-- A document that is let through has its fields at the top and clean parts. -/
theorem document_clean {doc : Entries} : Clean (document doc) ↔
    hasErrors (shape doc) = false ∧
      (∀ e ∈ entriesOf (fieldIn doc "actions"), hasErrors (actionDetail e.1 e.2) = false) ∧
      (∀ e ∈ entriesOf (fieldIn doc "tracks"), Clean (track e.1 e.2)) ∧
      hasErrors (opening (namesOf doc) (fieldIn doc "initial")) = false ∧
      ∀ e ∈ entriesOf (fieldIn doc "situations"), Clean (situation (namesOf doc) e.1 e.2) := by
  unfold document
  dsimp only
  by_cases shaped : hasErrors (shape doc) = false
  · simp only [shape_eq_nil shaped, List.isEmpty_nil, Bool.not_true, Bool.false_eq_true, if_false,
      clean_all, List.forall_mem_cons, clean_ok, hasErrors_flatMap, List.forall_mem_map]
    constructor
    · rintro ⟨-, onActions, onTracks, onOpening, onSituations, -⟩
      exact ⟨rfl, onActions, onTracks, onOpening, onSituations⟩
    · rintro ⟨-, onActions, onTracks, onOpening, onSituations⟩
      exact ⟨endings_clean _, onActions, onTracks, onOpening, onSituations, nofun⟩
  · refine iff_of_false ?_ fun h => shaped h.1
    have some : shape doc ≠ [] := fun empty => shaped (by rw [empty]; rfl)
    simpa [some, clean_ok] using shaped

theorem mapping_of_shape {doc : Entries} (field : String) (h : hasErrors (shape doc) = false)
    (mem : field ∈ ["actions", "tracks", "situations"]) :
    ∃ es, lookupLast field doc = some (.mapping es) := by
  have kind := (shape_clean.1 h).2 field mem
  unfold fieldIn at kind
  cases here : lookupLast field doc with
  | none =>
    rw [here] at kind
    cases kind
  | some v =>
    rw [here] at kind
    cases v with
    | mapping es => exact ⟨es, rfl⟩
    | _ => cases kind

/-- Counters that the check knows are counters of the opening. -/
theorem opening_counters {es : Entries} {o : Opening}
    (fit : optional es ["counters"] [] (mapping Counter.read) = .fits o.counters) :
    ∀ k ∈ (entriesOf (fieldIn es "counters")).map Prod.fst, k ∈ o.counters.map Prod.fst := by
  cases here : lookupLast "counters" es with
  | none => simp [fieldIn, here, entriesOf]
  | some v =>
    rw [optional_here here, Checked.under_eq_fits] at fit
    obtain ⟨cs, -, rfl, -⟩ := mapping_eq_fits.1 fit
    rw [fieldIn_of_found here]
    exact fun k mem => (mapping_keys fit).2 mem

/-- A scenario whose document the check lets through is sound. -/
theorem document_sound {doc : Entries} {sc : Scenario} (h : Clean (document doc))
    (read : Scenario.read (.mapping doc) = .fits sc) : sc.Sound := by
  obtain ⟨-, fromInitial, fromTracks, fromSituations⟩ := Scenario.read_fits read
  obtain ⟨shaped, -, -, -, clean⟩ := document_clean.1 h
  obtain ⟨ts, tracksHere⟩ := mapping_of_shape "tracks" shaped (by simp)
  obtain ⟨ss, situationsHere⟩ := mapping_of_shape "situations" shaped (by simp)
  simp only [fieldIn_of_found situationsHere, entriesOf] at clean
  have counters : ∀ k ∈ (namesOf doc).counters, k ∈ sc.opening.counters.map Prod.fst := by
    obtain ⟨_, v, found, fit⟩ := required_eq_fits.1 fromInitial
    have here := fieldUnder_only found
    obtain ⟨es, rfl, -, fromCounters⟩ := Opening.read_fits fit
    simp only [namesOf, fieldIn_of_found here, entriesOf]
    exact opening_counters fromCounters
  rw [optional_here tracksHere, Checked.under_eq_fits] at fromTracks
  rw [required_here situationsHere, Checked.under_eq_fits] at fromSituations
  have tracks : ∀ k ∈ (namesOf doc).tracks, k ∈ sc.tracks.map Prod.fst := by
    simp only [namesOf, fieldIn_of_found tracksHere, entriesOf]
    exact fun k mem => (mapping_keys fromTracks).2 mem
  have each : ∀ id situation, (id, situation) ∈ sc.situations →
      (∀ r ∈ situation.rules, RuleSound (namesOf doc) r) ∧
        ∀ c, situation.enterIf = some c → Condition.Parses c := by
    intro id situation mem
    obtain ⟨v, inside, fit⟩ := mapping_mem fromSituations id situation mem
    exact situation_sound (clean _ inside) fit
  refine ⟨fun e mem => ?_, fun id situation mem r rule => ?_, fun id situation mem => ?_⟩
  · obtain ⟨⟨id, situation⟩, inside, mem⟩ := List.mem_flatMap.1 mem
    obtain ⟨r, rule, mem⟩ := List.mem_flatMap.1 mem
    have sound := ((each id situation inside).1 r rule).effects
    have passed : e.Sound (namesOf doc).counters (namesOf doc).tracks := by
      obtain normal | failed := List.mem_append.1 mem
      · exact sound true e normal
      · exact sound false e failed
    exact passed.mono counters tracks
  · exact ((each id situation mem).1 r rule).require
  · exact (each id situation mem).2

end Check

end Storyworld
