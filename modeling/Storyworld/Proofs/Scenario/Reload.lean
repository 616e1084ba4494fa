import Mathlib
import Storyworld.Proofs.Check.Document
import Storyworld.Proofs.Effect.Written
import Storyworld.Proofs.Turn.Alike

/-!
Scenarios that were loaded and written out again are loaded from what was written, and they play the
same. Only the order of parts inside of effects may have changed.
-/

namespace Storyworld

open Schema

theorem whole_written (i : Int) : whole (.int i) = .fits i := rfl

theorem truth_written (b : Bool) : truth (.bool b) = .fits b := rfl

section Present

variable {α β : Type} {fields : Entries} {key : String} {v : Value}

theorem ne_null_of_isPresent (there : Check.isPresent v = true) : v ≠ .null := by
  rintro rfl
  cases there

theorem lookup_present (there : Check.isPresent v = true) (once : (fields.map Prod.fst).Nodup)
    (here : lookupLast key fields = some v) :
    lookupLast key (Value.presentEntries fields) = some v :=
  (Value.lookupLast_presentEntries once).2 ⟨here, ne_null_of_isPresent there⟩

/-- A field that has a value is read from the written ones. -/
theorem required_present {names : List String} {read : Reader α} {a : α}
    (fit : read v = .fits a) (there : Check.isPresent v = true) (once : (fields.map Prod.fst).Nodup)
    (here : lookupLast key fields = some v) :
    required (Value.presentEntries fields) (key :: names) read = .fits a := by
  rw [required_here (lookup_present there once here), fit]
  rfl

theorem optional_present {names : List String} {absent a : α} {read : Reader α}
    (fit : read v = .fits a) (there : Check.isPresent v = true) (once : (fields.map Prod.fst).Nodup)
    (here : lookupLast key fields = some v) :
    optional (Value.presentEntries fields) (key :: names) absent read = .fits a := by
  rw [optional_here (lookup_present there once here), fit]
  rfl

/-- A field without a value is not written, and a missing one is read as none. -/
theorem nullable_present {read : Reader β} {write : α → Value} {f : α → β} {o : Option α}
    (fit : ∀ a, o = some a → read (write a) = .fits (f a))
    (there : ∀ a, Check.isPresent (write a) = true) (once : (fields.map Prod.fst).Nodup)
    (here : lookupLast key fields = some (.ofOption write o)) :
    optional (Value.presentEntries fields) [key] none (nullable read) = .fits (o.map f) := by
  cases o with
  | none =>
    refine optional_eq_fits.2 (.inl ⟨?_, rfl⟩)
    refine Option.eq_none_iff_forall_ne_some.2 fun ⟨k, w⟩ found => ?_
    obtain ⟨same, some⟩ := (Value.lookupLast_presentEntries once).1 (fieldUnder_only found)
    cases here.symm.trans same
    exact some rfl
  | some a =>
    have some : nullable read (write a) = .fits (some (f a)) :=
      nullable_eq_fits.2 (.inr ⟨f a, ne_null_of_isPresent (there a), fit a rfl, rfl⟩)
    exact optional_present some (there a) once here

theorem textOption_present {o : Option String} (once : (fields.map Prod.fst).Nodup)
    (here : lookupLast key fields = some (.ofTextOption o)) :
    textOption (Value.presentEntries fields) [key] = .fits o := by
  have read := nullable_present (f := id) (fun s _ => text_written s) (fun _ => rfl) once here
  rwa [Option.map_id] at read

end Present

theorem ActionDetail.read_toValue (d : ActionDetail) : ActionDetail.read d.toValue = .fits d := by
  obtain ⟨label, icon, description⟩ := d
  cases description <;> rfl

theorem TrackDefinition.read_toValue (t : TrackDefinition) :
    TrackDefinition.read t.toValue = .fits t := rfl

theorem TrackStyle.read_toValue (s : TrackStyle) : TrackStyle.read s.toValue = .fits s := by
  obtain ⟨icon, color, progressColor⟩ := s
  cases progressColor <;> rfl

theorem Trigger.read_toValue (t : Trigger) : Trigger.read t.toValue = .fits t := by
  obtain ⟨actionId, targetPattern, textPattern, require⟩ := t
  cases targetPattern <;> cases textPattern <;> cases require <;> rfl

theorem Opening.read_toValue {o : Opening} (once : (o.counters.map Prod.fst).Nodup) :
    Opening.read o.toValue = .fits o := by
  have counters : mapping Counter.read (countersValue o.counters) = .fits o.counters :=
    mapping_written Counter.read_toValue once
  have items : list Item.read (.list (o.inventory.map fun i => recordOf i.fields)) =
      .fits o.inventory := list_written Item.read_presentEntries o.inventory
  simp only [Opening.read, Opening.toValue, recordOf, model]
  rw [required_present (text_written o.situation) rfl (by simp) rfl,
    optional_present counters rfl (by simp) rfl, optional_present items rfl (by simp) rfl]
  rfl

theorem Hints.read_toValue {h : Hints} (icons : (h.counterIcons.map Prod.fst).Nodup)
    (styles : (h.trackStyles.map Prod.fst).Nodup) : Hints.read h.toValue = .fits h := by
  simp only [Hints.read, Hints.toValue, recordOf, model]
  rw [optional_present (mapping_written text_written icons) rfl (by simp) rfl,
    optional_present (mapping_written TrackStyle.read_toValue styles) rfl (by simp) rfl]
  rfl

theorem Hints.keys_nodup {v : Value} {h : Hints} (read : Hints.read v = .fits h) :
    (h.counterIcons.map Prod.fst).Nodup ∧ (h.trackStyles.map Prod.fst).Nodup := by
  simp only [Hints.read, model_eq_fits, Checked.seq_eq_fits, Checked.map_eq_fits] at read
  obtain ⟨es, rfl, _, _, ⟨_, icons, rfl⟩, styles, rfl⟩ := read
  exact ⟨optional_nodup icons, optional_nodup styles⟩

/-- A tidy effect with one action cannot be told apart from what is read of it. -/
theorem Effect.Tidy.alike_reloaded {e : Effect} {key : String} (tidy : e.Tidy)
    (one : e.writtenActions = [key]) : e.Alike e.reloaded := by
  have same : e.reloaded.actionParts = e.actionParts := actionParts_perm tidy.parts_reloaded one
  refine ⟨?_, ?_, guard?_perm tidy.parts_reloaded tidy, cap?_perm tidy.parts_reloaded tidy⟩
  · rw [writtenActions, writtenActions, same]
  · rw [action?, action?, same]

theorem effectsValue_read {es : List Effect} (tidy : ∀ e ∈ es, e.Tidy) :
    list Effect.read (effectsValue es) = .fits (es.map Effect.reloaded) :=
  list_map_written fun e mem => (tidy e mem).read_reloaded

theorem Rule.read_toValue {r : Rule} (tidy : ∀ e ∈ r.effects ++ r.failure.getD [], e.Tidy) :
    Rule.read r.toValue = .fits (r.mapEffects Effect.reloaded) := by
  have normal := effectsValue_read fun e mem => tidy e (List.mem_append_left _ mem)
  have failed (more : List Effect) (written : r.failure = some more) :
      list Effect.read (effectsValue more) = .fits (more.map Effect.reloaded) :=
    effectsValue_read fun e mem => tidy e (List.mem_append_right _ (by simpa [written] using mem))
  simp only [Rule.read, Rule.toValue, recordOf, model]
  rw [required_present (Trigger.read_toValue r.trigger) rfl (by simp) rfl,
    optional_present normal rfl (by simp) rfl, nullable_present failed (fun _ => rfl) (by simp) rfl]
  rfl

theorem Situation.read_toValue {s : Situation}
    (tidy : ∀ r ∈ s.rules, ∀ e ∈ r.effects ++ r.failure.getD [], e.Tidy) :
    Situation.read s.toValue = .fits (s.mapEffects Effect.reloaded) := by
  have rules : list Rule.read (.list (s.rules.map Rule.toValue)) =
      .fits (s.rules.map (Rule.mapEffects Effect.reloaded)) :=
    list_map_written fun r mem => Rule.read_toValue (tidy r mem)
  have allowed := list_written text_written s.allowedActions
  simp only [Situation.read, Situation.toValue, recordOf, model]
  rw [required_present (text_written s.label) rfl (by simp) rfl,
    textOption_present (o := s.description) (by simp) rfl,
    optional_present allowed rfl (by simp) rfl, optional_present rules rfl (by simp) rfl,
    textOption_present (o := s.enterIf) (by simp) rfl,
    optional_present (truth_written s.ending) rfl (by simp) rfl]
  rfl

/-- A scenario in which every key of a mapping stands once and every effect is tidy. -/
structure Scenario.Tidy (sc : Scenario) : Prop where
  actions : (sc.actions.map Prod.fst).Nodup
  counters : (sc.opening.counters.map Prod.fst).Nodup
  tracks : (sc.tracks.map Prod.fst).Nodup
  situations : (sc.situations.map Prod.fst).Nodup
  hints : ∀ h, sc.hints = some h →
    (h.counterIcons.map Prod.fst).Nodup ∧ (h.trackStyles.map Prod.fst).Nodup
  effects : ∀ e ∈ sc.effects, e.Tidy

theorem Scenario.read_toValue {sc : Scenario} (tidy : sc.Tidy) :
    Scenario.read sc.toValue = .fits (sc.mapEffects Effect.reloaded) := by
  have actions := mapping_written ActionDetail.read_toValue tidy.actions
  have opening := Opening.read_toValue tidy.counters
  have tracks := mapping_written TrackDefinition.read_toValue tidy.tracks
  have situations : mapping Situation.read
      (.mapping (sc.situations.map fun e => (e.1, e.2.toValue))) =
      .fits (sc.situations.map fun e => (e.1, e.2.mapEffects Effect.reloaded)) :=
    mapping_map_written (fun s mem => Situation.read_toValue fun r rule e inside =>
      tidy.effects e (List.mem_flatMap.2 ⟨s, mem, List.mem_flatMap.2 ⟨r, rule, inside⟩⟩))
      tidy.situations
  have hints (h : Hints) (written : sc.hints = some h) : Hints.read h.toValue = .fits h :=
    Hints.read_toValue (tidy.hints h written).1 (tidy.hints h written).2
  simp only [Scenario.read, Scenario.toValue, recordOf, model]
  rw [optional_present (whole_written sc.version) rfl (by simp) rfl,
    required_present (text_written sc.id) rfl (by simp) rfl,
    required_present (text_written sc.title) rfl (by simp) rfl,
    optional_present (text_written sc.description) rfl (by simp) rfl,
    optional_present (Language.read_name sc.language) rfl (by simp) rfl,
    textOption_present (o := sc.theme) (by simp) rfl,
    required_present actions rfl (by simp) rfl,
    required_present opening rfl (by simp) rfl,
    optional_present tracks rfl (by simp) rfl,
    required_present situations rfl (by simp) rfl,
    nullable_present (f := fun h => h) hints (fun _ => rfl) (by simp) rfl, Option.map_id']
  rfl

theorem optional_list_mem {α : Type} {es : Entries} {names : List String} {read : Reader α}
    {as : List α} (h : optional es names [] (list read) = .fits as) :
    ∀ a ∈ as, ∃ v, read v = .fits a := by
  intro a mem
  obtain ⟨-, rfl⟩ | ⟨n, v, -, fit⟩ := optional_eq_fits.1 h
  · cases mem
  · obtain ⟨vs, rfl, -⟩ := list_eq_fits.1 fit
    obtain ⟨w, -, read⟩ := list_mem fit a mem
    exact ⟨w, read⟩

theorem Rule.effect_read {v : Value} {r : Rule} (h : Rule.read v = .fits r) :
    ∀ e ∈ r.effects ++ r.failure.getD [], ∃ w, Effect.read w = .fits e := by
  obtain ⟨es, -, -, fromDo, fromFail⟩ := Rule.read_fits h
  intro e mem
  obtain normal | failed := List.mem_append.1 mem
  · exact optional_list_mem fromDo e normal
  · cases written : r.failure with
    | none => simp [written] at failed
    | some more =>
      obtain ⟨w, -, -, fit⟩ := nullable_found (written ▸ fromFail)
      obtain ⟨vs, rfl, -⟩ := list_eq_fits.1 fit
      obtain ⟨u, -, read⟩ := list_mem fit e (by simpa [written] using failed)
      exact ⟨u, read⟩

namespace Scenario

variable {v : Value} {sc : Scenario}

/-- Every effect of a scenario was read. -/
theorem effect_read (h : Scenario.read v = .fits sc) :
    ∀ e ∈ sc.effects, ∃ w, Effect.read w = .fits e := by
  obtain ⟨doc, rfl, -⟩ := model_eq_fits.1 h
  obtain ⟨-, -, -, fromSituations⟩ := Scenario.read_fits h
  obtain ⟨_, w, -, fit⟩ := required_eq_fits.1 fromSituations
  obtain ⟨ss, -, rfl, -⟩ := mapping_eq_fits.1 fit
  intro e mem
  obtain ⟨⟨id, situation⟩, inside, mem⟩ := List.mem_flatMap.1 mem
  obtain ⟨r, rule, mem⟩ := List.mem_flatMap.1 mem
  obtain ⟨u, -, read⟩ := mapping_mem fit id situation inside
  obtain ⟨es, -, fromRules, -⟩ := Situation.read_fits read
  obtain ⟨x, fromRule⟩ := optional_list_mem fromRules r rule
  exact Rule.effect_read fromRule e mem

theorem hints_read {doc : Entries} (h : Scenario.read (.mapping doc) = .fits sc) :
    optional doc ["ui"] none (nullable Hints.read) = .fits sc.hints := by
  simp only [Scenario.read, model, Checked.seq_eq_fits] at h
  obtain ⟨_, hints, ⟨_, _, ⟨_, _, ⟨_, _, ⟨_, _, ⟨_, _, ⟨_, _, ⟨_, _, ⟨_, _, ⟨_, _, first, -, rfl⟩,
    -, rfl⟩, -, rfl⟩, -, rfl⟩, -, rfl⟩, -, rfl⟩, -, rfl⟩, -, rfl⟩, -, rfl⟩, written, rfl⟩ := h
  obtain ⟨_, -, rfl⟩ := Checked.map_eq_fits.1 first
  exact written

/-- A scenario that was read is tidy if each of its effects has one action, which is known. -/
theorem tidy_of_read (h : Scenario.read v = .fits sc)
    (one : ∀ e ∈ sc.effects, ∃ key ∈ actionKeys, e.writtenActions = [key]) : sc.Tidy := by
  have effects : ∀ e ∈ sc.effects, e.Tidy := by
    intro e mem
    obtain ⟨key, known, only⟩ := one e mem
    obtain ⟨w, read⟩ := effect_read h e mem
    exact Effect.tidy_of_read read only known
  obtain ⟨doc, rfl, -⟩ := model_eq_fits.1 h
  obtain ⟨actions, fromInitial, tracks, situations⟩ := Scenario.read_fits h
  obtain ⟨_, w, -, fit⟩ := required_eq_fits.1 fromInitial
  obtain ⟨es, -, -, counters⟩ := Opening.read_fits fit
  refine ⟨required_nodup actions, optional_nodup counters, optional_nodup tracks,
    required_nodup situations, fun hints written => ?_, effects⟩
  obtain ⟨u, -, -, fit⟩ := nullable_found (written ▸ hints_read h)
  exact Hints.keys_nodup fit

/-- A scenario that was loaded, with one known action in every effect, is loaded from what it is
written as, and there every action of the player gives the same turn in every state. -/
theorem reloaded_plays_alike (h : Scenario.read v = .fits sc)
    (one : ∀ e ∈ sc.effects, ∃ key ∈ actionKeys, e.writtenActions = [key]) :
    ∃ again, Scenario.read sc.toValue = .fits again ∧
      ∀ (now : Timestamp) (s : State) (actionId : String) (target : Option String) (success : Bool),
        s.act again now actionId target success = s.act sc now actionId target success := by
  have tidy := tidy_of_read h one
  have alike : ∀ e ∈ sc.effects, e.Alike e.reloaded := by
    intro e mem
    obtain ⟨key, -, only⟩ := one e mem
    exact (tidy.effects e mem).alike_reloaded only
  exact ⟨_, read_toValue tidy, fun now s actionId target success =>
    State.act_mapEffects alike now actionId target success s⟩

/-- An orchard, with second names for keys, values that are not there and modifiers in front. -/
def orchardDocument : Value :=
  .mapping [
    ("id", .text "orchard"),
    ("title", .text "The orchard"),
    ("theme", .null),
    ("actions", .mapping [("pick", .mapping [("icon", .text "Apple"), ("label", .text "Pick")])]),
    ("initial", .mapping [
      ("counters", .mapping [("apples", .int 1), ("ripe", .bool true)]),
      ("situation", .text "trees")]),
    ("situations", .mapping [
      ("trees", .mapping [
        ("label", .text "Trees"),
        ("description", .null),
        ("on_action", .list [.mapping [
          ("do_", .list [
            .mapping [("cap", .int 3), ("add", .text "counters.apples,5")],
            .mapping [("if_", .text "counters.ripe"), ("log", .text "Ripe ones.")],
            .mapping [
              ("give_item", .mapping [("id", .text "twig"), ("name", .text "Twig"), ("slot", .null)]),
              ("track", .null)]]),
          ("fail", .list [.mapping [("add_known_target", .text "ladder")]]),
          ("when", .mapping [("require", .null), ("action_id", .text "pick")])]])])])]

def orchard : Scenario where
  version := 1
  id := "orchard"
  title := "The orchard"
  description := ""
  language := .en
  theme := none
  actions := [("pick", ⟨"Pick", "Apple", none⟩)]
  opening := ⟨"trees", [("apples", .number (.int 1)), ("ripe", .flag true)], []⟩
  tracks := []
  situations := [("trees", {
    label := "Trees"
    description := none
    allowedActions := []
    rules := [⟨⟨"pick", none, none, none⟩, [
      ⟨[.cap (.int 3), .action (.add "counters.apples,5")]⟩,
      ⟨[.guard "counters.ripe", .action (.log "Ripe ones.")]⟩,
      ⟨[.action (.giveItem ⟨"twig", "Twig", "", "Package", none⟩)]⟩],
      some [⟨[.action (.addKnownTarget "ladder")]⟩]⟩]
    enterIf := none
    ending := false })]
  hints := none

/-- Picking in the orchard that was loaded again gives what picking gave before. -/
theorem reloaded_plays_alike_orchard :
    Scenario.read orchardDocument = .fits orchard ∧
      (∀ e ∈ orchard.effects, ∃ key ∈ actionKeys, e.writtenActions = [key]) ∧
      ∃ again r, Scenario.read orchard.toValue = .fits again ∧
        ((orchard.start none).act again Session.noon "pick" none true).result = .ok r ∧
        r.rule = some 0 ∧ r.lines = ["Ripe ones."] ∧
        r.state.counters = [("apples", .number (.int 3)), ("ripe", .flag true)] := by
  have read : Scenario.read orchardDocument = .fits orchard := by cbv
  have one : ∀ e ∈ orchard.effects, ∃ key ∈ actionKeys, e.writtenActions = [key] := by decide
  obtain ⟨again, loaded, alike⟩ := reloaded_plays_alike read one
  have picked : ∃ r, ((orchard.start none).act orchard Session.noon "pick" none true).result =
      .ok r ∧ r.rule = some 0 ∧ r.lines = ["Ripe ones."] ∧
      r.state.counters = [("apples", .number (.int 3)), ("ripe", .flag true)] := by
    refine ⟨?r, ?done, ?rule, ?lines, ?counters⟩
    case done =>
      cbv
      rfl
    case rule => rfl
    case lines => rfl
    case counters => rfl
  obtain ⟨r, done, rest⟩ := picked
  exact ⟨read, one, again, r, loaded, by rw [alike, done], rest⟩

end Scenario

end Storyworld
