import Storyworld.Proofs.Check.Effects
import Storyworld.Proofs.Effect.Written
import Storyworld.Scenario.Document

/-!
Effects that were loaded and written out again. The check lets them through if it let through what
they were read from, as long as there is no less that they can refer to.
-/

namespace Storyworld

namespace Check

theorem fieldIn_presentEntries {es : Entries} (once : (es.map Prod.fst).Nodup) (key : String) :
    fieldIn (Value.presentEntries es) key = fieldIn es key := by
  unfold fieldIn
  cases shown : lookupLast key (Value.presentEntries es) with
  | some v => rw [((Value.lookupLast_presentEntries once).1 shown).1]
  | none =>
    cases here : lookupLast key es with
    | none => rfl
    | some v =>
      by_cases null : v = .null
      · rw [null]
        rfl
      · rw [(Value.lookupLast_presentEntries once).2 ⟨here, null⟩] at shown
        cases shown

/-- Whatever the first names have, the second ones have as well. -/
structure Names.Within (names more : Names) : Prop where
  actions : ∀ k ∈ names.actions, k ∈ more.actions
  tracks : ∀ k ∈ names.tracks, k ∈ more.tracks
  situations : ∀ k ∈ names.situations, k ∈ more.situations
  counters : ∀ k ∈ names.counters, k ∈ more.counters

@[simp] theorem hasErrors_demand_warning (holds : Bool) (path message : String) :
    hasErrors (demand holds (aWarning path message)) = false := by
  cases holds <;> rfl

theorem hasErrors_counterValue (path path' : String) (raw : List Char) :
    hasErrors (counterValue path raw) = hasErrors (counterValue path' raw) := by
  unfold counterValue
  split
  · rfl
  · split
    · rfl
    · simp

variable {names more : Names} {path path' : String}

theorem counterIssues_again (within : names.Within more) {key counter : String} {raw : List Char}
    (h : hasErrors (counterIssues names path key counter raw) = false) :
    hasErrors (counterIssues more path' key counter raw) = false := by
  simp only [counterIssues, hasErrors_append, hasErrors_demand, Bool.or_eq_false_iff,
    Bool.not_eq_false', List.contains_iff_mem] at h ⊢
  refine ⟨within.counters _ h.1, ?_⟩
  by_cases adds : key = "add"
  · simpa [adds] using h.2
  · rw [if_neg adds, hasErrors_counterValue path' path]
    simpa [adds] using h.2

theorem trackAmount_again (within : names.Within more) {track unknown amount : String}
    {raw : List Char} (h : hasErrors (trackAmount names path track unknown amount raw) = false) :
    hasErrors (trackAmount more path' track unknown amount raw) = false := by
  obtain ⟨known, whole⟩ := trackAmount_clean.1 h
  exact trackAmount_clean.2 ⟨within.tracks _ known, whole⟩

theorem changeTarget_again (within : names.Within more) {key : String} {target raw : List Char}
    (h : hasErrors (changeTarget names path key target raw) = false) :
    hasErrors (changeTarget more path' key target raw) = false := by
  simp only [changeTarget] at h ⊢
  by_cases moves : key = "add" ∧ String.ofList (Text.partAt '.' target).1 = "tracks"
  · rw [if_pos moves] at h ⊢
    exact trackAmount_again within h
  by_cases elsewhere : String.ofList (Text.partAt '.' target).1 ≠ "counters"
  · rw [if_neg moves, if_pos elsewhere] at h
    cases h
  · rw [if_neg moves, if_neg elsewhere] at h ⊢
    exact counterIssues_again within h

theorem change_again (within : names.Within more) {key : String} {target raw : List Char}
    (h : hasErrors (change names path key target raw) = false) :
    hasErrors (change more path' key target raw) = false := by
  simp only [change] at h ⊢
  by_cases moves : key = "track"
  · rw [if_pos moves] at h ⊢
    exact trackAmount_again within h
  by_cases next : key = "set" ∧ String.ofList target = "next_situation"
  · rw [if_neg moves, if_pos next]
    exact hasErrors_demand_warning ..
  by_cases route : key = "set" ∧ String.ofList target = "route"
  · rw [if_neg moves, if_neg next, if_pos route]
    rfl
  · rw [if_neg moves, if_neg next, if_neg route] at h ⊢
    exact changeTarget_again within h

/-- A text that is let through as the value of an action is let through again. -/
theorem textAction_again (within : names.Within more) {key s : String}
    (h : Clean (action names path key (.text s))) : Clean (action more path' key (.text s)) := by
  by_cases given : key = "give_item"
  · rw [action, if_pos given, clean_ok] at h
    cases h
  by_cases sort : key = "add" ∨ key = "set" ∨ key = "track"
  · rw [action, if_neg given, if_pos sort] at h ⊢
    cases cut : Text.cutAt ',' s.toList with
    | none =>
      rw [cut] at h
      exact absurd h notAChange_not_clean
    | some sides =>
      rw [cut] at h
      exact clean_ok.2 (change_again within (clean_ok.1 h))
  · rw [action, if_neg given, if_neg sort, clean_ok]
    rfl

theorem cap_clean {v : Value} : Clean (cap path v) ↔ isNumber v = .ok true := by
  constructor
  · rintro ⟨issues, done, none⟩
    obtain ⟨b, number, same⟩ := bind_eq_ok.1 done
    cases same
    cases b with
    | true => exact number
    | false => cases none
  · intro number
    exact ⟨[], bind_of_ok number rfl, rfl⟩

/-- A number for the check stays as it is when it is read. -/
theorem number_toValue {v : Value} {n : Number} (number : isNumber v = .ok true)
    (read : Schema.number v = .fits n) : n.toValue = v := by
  cases v with
  | int i =>
    cases read
    rfl
  | float x =>
    cases read
    rfl
  | _ => cases number

theorem isItem_again (item : Item) : isItem (.mapping (Value.presentEntries item.fields)) = true := by
  have once : (item.fields.map Prod.fst).Nodup := by
    change ["id", "name", "description", "icon", "slot"].Nodup
    decide
  rw [isItem, fieldIn_presentEntries once, fieldIn_presentEntries once]
  rfl

namespace OneAction

variable {es : Entries} {key : String} {e : Effect}

/-- A text that makes an action stands under the action key. -/
theorem text_made (one : OneAction names path es key) {k s : String} {others : List String}
    (made : Effect.TextUnder es (k :: others) s) (plain : ∀ n ∈ k :: others, n ∉ modifierKeys)
    (second : ∀ n ∈ others, n ∉ actionKeys) :
    key = k ∧ Clean (Check.action names path key (.text s)) := by
  obtain ⟨n, found⟩ := made
  obtain ⟨mem, value⟩ := one.found found plain
  refine ⟨?_, value ▸ one.action⟩
  obtain first | later := List.mem_cons.1 mem
  · exact first
  · exact absurd one.known (second key later)

theorem made_key (one : OneAction names path es key) {a : Action}
    (made : Effect.Made es (.action a)) : a.key = key := by
  cases a with
  | giveItem item =>
    obtain ⟨k, v, found, -, -⟩ := made
    obtain ⟨named, -⟩ := one.found found (by decide)
    exact (List.mem_singleton.1 named).symm
  | _ => exact (one.text_made made (by decide) (by decide)).1.symm

theorem made_again (one : OneAction names path es key) (within : names.Within more) {a : Action}
    (made : Effect.Made es (.action a)) :
    Clean (Check.action more path' a.key (Effect.partEntry (.action a)).2) := by
  cases a with
  | giveItem item =>
    refine clean_ok.2 ?_
    rw [hasErrors_demand, Effect.partEntry, isItem_again]
    rfl
  | _ =>
    obtain ⟨rfl, clean⟩ := one.text_made made (by decide) (by decide)
    exact textAction_again within clean

theorem no_unknownEntries (one : OneAction names path es key) : Effect.unknownEntries es = [] :=
  List.eq_nil_iff_forall_not_mem.2 fun _ mem => one.not_unknown mem

theorem entries_once (one : OneAction names path es key)
    (read : Effect.read (.mapping es) = .fits e) : (e.entries.map Prod.fst).Nodup :=
  Effect.entries_nodup (Effect.parts_keys_nodup read (by simp [one.no_unknownEntries]))

/-- Parts other than modifiers are actions with the action key. -/
theorem part_action (one : OneAction names path es key)
    (read : Effect.read (.mapping es) = .fits e) {p : Part} (mem : p ∈ e.parts)
    (plain : p.key ∉ modifierKeys) : ∃ a, p = .action a ∧ a.key = key := by
  have made := (Effect.mem_parts read).1 mem
  cases p with
  | action a => exact ⟨a, rfl, one.made_key made⟩
  | guard c => simp [Part.key, modifierKeys] at plain
  | cap n => simp [Part.key, modifierKeys] at plain
  | unknown k v => exact absurd made one.not_unknown

theorem not_modifier (one : OneAction names path es key) : key ∉ modifierKeys := by
  have plain : ∀ k ∈ actionKeys, k ∉ modifierKeys := by decide
  exact plain key one.known

theorem guard_again (one : OneAction names path es key)
    (read : Effect.read (.mapping es) = .fits e) :
    Clean (modifier e.entries "if" (condition "Effect guard" path')) := by
  unfold modifier
  cases here : lookupLast "if" e.entries with
  | none => exact clean_ok.2 rfl
  | some v =>
    obtain ⟨p, mem, entry, named⟩ := Effect.written_part here
    cases p with
    | guard c =>
      cases entry
      exact condition_clean (one.guardPart_parses read mem)
    | action a => cases a <;> simp [Part.key, Action.key] at named
    | cap n => simp [Part.key] at named
    | unknown k v => exact absurd ((Effect.mem_parts read).1 mem) one.not_unknown

theorem cap_again (one : OneAction names path es key) (read : Effect.read (.mapping es) = .fits e)
    (capped : Clean (modifier es "cap" (Check.cap path))) :
    Clean (modifier e.entries "cap" (Check.cap path')) := by
  unfold modifier
  cases here : lookupLast "cap" e.entries with
  | none => exact clean_ok.2 rfl
  | some v =>
    obtain ⟨p, mem, entry, named⟩ := Effect.written_part here
    have made := (Effect.mem_parts read).1 mem
    cases p with
    | cap n =>
      obtain ⟨k, w, found, -, fit⟩ := made
      have number := cap_clean.1 (modifier_clean capped (Schema.fieldUnder_only found))
      cases entry
      exact cap_clean.2 (number_toValue number fit ▸ number)
    | action a => cases a <;> simp [Part.key, Action.key] at named
    | guard c => simp [Part.key] at named
    | unknown k v => exact absurd made one.not_unknown

/-- What is written of an effect has the action key that it was read with. -/
theorem again (one : OneAction names path es key) (read : Effect.read (.mapping es) = .fits e)
    (within : names.Within more) : OneAction more path' e.entries key := by
  obtain ⟨a, -, made⟩ := one.exists_action read
  have mem : .action a ∈ e.parts := (Effect.mem_parts read).2 made
  have once := one.entries_once read
  obtain ⟨v, entry, there⟩ := Effect.partEntry_action a
  obtain rfl := one.made_key made
  have here : lookupLast a.key e.entries = some v :=
    (lookupLast_eq_some once).2 (Effect.mem_entries.2 ⟨⟨_, mem, entry⟩, there⟩)
  have clean : Clean (Check.action more path' a.key (Effect.partEntry (.action a)).2) :=
    one.made_again within made
  rw [entry] at clean
  refine ⟨one.known, ?written, ?only, ?action, one.guard_again read⟩
  case written => rw [here, fieldIn_of_found here]
  case only =>
    intro k keyed plain
    obtain ⟨w, found⟩ := exists_lookupLast keyed
    obtain ⟨p, inside, -, rfl⟩ := Effect.written_part found
    obtain ⟨b, rfl, same⟩ := one.part_action read inside plain
    exact same
  case action => rwa [fieldIn_of_found here]

theorem keys_eq (one : OneAction names path es key) (once : (es.map Prod.fst).Nodup) :
    (es.map Prod.fst).filter (fun k => !modifierKeys.contains k) = [key] := by
  refine List.perm_singleton.1 ((List.perm_ext_iff_of_nodup (once.filter _)
    (List.nodup_singleton key)).2 fun k => ?_)
  rw [List.mem_filter, List.mem_singleton, Bool.not_eq_true', ← Bool.not_eq_true,
    List.contains_iff_mem]
  constructor
  · rintro ⟨keyed, plain⟩
    exact one.only k keyed plain
  · rintro rfl
    exact ⟨lookupLast_key one.written, one.not_modifier⟩

/-- Nothing but one action, a guard and a cap is asked of an effect whose keys stand once. -/
theorem effect_clean (one : OneAction names path es key) (once : (es.map Prod.fst).Nodup)
    {isLast : Bool} (last : isLast = true ∨ key ≠ "log")
    (capped : Clean (modifier es "cap" (Check.cap path))) :
    Clean (effect names path isLast (.mapping es)) := by
  simp only [effect, clean_all, List.forall_mem_cons, one.keys_eq once]
  refine ⟨?unknown, ?action, ?log, one.guard, capped, fun _ mem => absurd mem List.not_mem_nil⟩
  case unknown =>
    rw [List.filter_cons_of_neg (by simpa using one.known)]
    exact clean_ok.2 rfl
  case action =>
    rw [Check.actions, if_pos (List.contains_iff_mem.2 one.known)]
    exact one.action
  case log =>
    rw [clean_ok, hasErrors_demand]
    obtain rfl | other := last
    · rfl
    · simp [Ne.symm other]

end OneAction

/-- An effect that is let through is let through again after it was read and written. -/
theorem effect_again {isLast : Bool} {v : Value} {e : Effect}
    (h : Clean (effect names path isLast v)) (read : Effect.read v = .fits e)
    (within : names.Within more) : Clean (effect more path' isLast e.toValue) := by
  obtain ⟨es, rfl, -⟩ := Schema.model_eq_fits.1 read
  obtain ⟨key, one⟩ := effect_oneAction h
  simp only [effect, clean_all, List.forall_mem_cons] at h
  obtain ⟨-, -, onLog, -, capped, -⟩ := h
  have once := one.entries_once read
  refine (one.again read within).effect_clean once ?_ (one.cap_again read capped)
  cases isLast with
  | true => exact .inl rfl
  | false =>
    refine .inr fun log => ?_
    have inside : key ∈ (es.map Prod.fst).filter fun k => !modifierKeys.contains k :=
      List.mem_filter.2 ⟨lookupLast_key one.written, by simpa using one.not_modifier⟩
    rw [clean_ok, hasErrors_demand, List.contains_iff_mem.2 (log ▸ inside)] at onLog
    cases onLog

/-- A list of effects that is let through is let through again. -/
theorem effects_again {v : Value} {es : List Effect} (h : Clean (Check.effects names path v))
    (read : Schema.list Effect.read v = .fits es) (within : names.Within more) :
    Clean (Check.effects more path' (effectsValue es)) := by
  obtain ⟨vs, rfl, fit⟩ := Schema.list_eq_fits.1 read
  rw [Check.effects, clean_all] at h
  rw [effectsValue, Check.effects, clean_all]
  clear read
  generalize 0 = i at h ⊢
  induction fit generalizing i with
  | nil => exact nofun
  | @cons v e vs es first rest ih =>
    rw [effectsFrom, List.forall_mem_cons] at h
    rw [List.map_cons, effectsFrom, List.forall_mem_cons]
    have same : (es.map Effect.toValue).isEmpty = vs.isEmpty := by cases rest <;> rfl
    rw [same]
    exact ⟨effect_again h.1 first within, ih (i + 1) h.2⟩

end Check

end Storyworld
