import Storyworld.Proofs.Effect.Parts
import Storyworld.Proofs.State.Document

/-!
Effects that were written are read again. A tidy effect has every key once and none that is unknown;
what is read of it has the same parts, in the order of documents.
-/

namespace Storyworld

theorem Value.presentEntries_sublist (es : Entries) : (presentEntries es).Sublist es :=
  List.filter_sublist

theorem Value.mem_presentEntries {es : Entries} {e : String × Value} :
    e ∈ presentEntries es ↔ e ∈ es ∧ e.2 ≠ .null := by
  obtain ⟨k, v⟩ := e
  rw [presentEntries, List.mem_filter]
  cases v <;> simp

theorem Value.lookupLast_presentEntries {es : Entries} {key : String} {v : Value}
    (once : (es.map Prod.fst).Nodup) :
    lookupLast key (presentEntries es) = some v ↔ lookupLast key es = some v ∧ v ≠ .null := by
  have onceLess : ((presentEntries es).map Prod.fst).Nodup :=
    ((presentEntries_sublist es).map Prod.fst).nodup once
  rw [lookupLast_eq_some once, lookupLast_eq_some onceLess, mem_presentEntries]

/-- An item is written without its slot if it has none. -/
theorem Item.read_presentEntries (item : Item) :
    Item.read (.mapping (Value.presentEntries item.fields)) = .fits item := by
  obtain ⟨id, name, description, icon, slot⟩ := item
  cases slot with
  | none => rfl
  | some slot => cases slot <;> rfl

namespace Effect

open Schema

theorem partEntry_key (p : Part) : (partEntry p).1 = p.key := by
  cases p with
  | action a => cases a <;> rfl
  | _ => rfl

theorem partEntry_action (a : Action) :
    ∃ v, partEntry (.action a) = (a.key, v) ∧ v ≠ .null := by
  cases a with
  | giveItem item => exact ⟨_, rfl, nofun⟩
  | _ => exact ⟨_, rfl, nofun⟩

/-- The entries that an effect is written with. -/
def entries (e : Effect) : Entries :=
  Value.presentEntries ((e.parts.mergeSort fun p q => rank p ≤ rank q).map partEntry)

theorem mem_entries {e : Effect} {k : String} {v : Value} :
    (k, v) ∈ e.entries ↔ (∃ p ∈ e.parts, partEntry p = (k, v)) ∧ v ≠ .null := by
  have sorted {p : Part} :
      p ∈ (e.parts.mergeSort fun p q => rank p ≤ rank q) ↔ p ∈ e.parts :=
    (List.mergeSort_perm ..).mem_iff
  simp only [entries, Value.mem_presentEntries, List.mem_map, sorted]

theorem entries_nodup {e : Effect} (once : (e.parts.map Part.key).Nodup) :
    (e.entries.map Prod.fst).Nodup := by
  have sorted := (List.mergeSort_perm e.parts fun p q => rank p ≤ rank q).map Part.key
  refine ((Value.presentEntries_sublist _).map Prod.fst).nodup ?_
  simpa only [List.map_map, Function.comp_def, partEntry_key] using sorted.nodup_iff.2 once

theorem written_part {e : Effect} {k : String} {v : Value} (h : lookupLast k e.entries = some v) :
    ∃ p ∈ e.parts, partEntry p = (k, v) ∧ p.key = k := by
  obtain ⟨⟨p, mem, entry⟩, -⟩ := mem_entries.1 (lookupLast_mem h)
  exact ⟨p, mem, entry, by rw [← partEntry_key, entry]⟩

end Effect

/-- A part that documents have a name for. -/
def Part.Known : Part → Prop
  | unknown .. => False
  | _ => True

theorem Part.Known.key_mem {p : Part} (known : p.Known) : p.key ∈ actionKeys ++ modifierKeys := by
  cases p with
  | action a => cases a <;> simp [Part.key, Action.key, actionKeys]
  | guard c => simp [Part.key, modifierKeys]
  | cap n => simp [Part.key, modifierKeys]
  | unknown k v => cases known

namespace Effect

open Schema

/-- Every key stands once, and none is unknown. -/
structure Tidy (e : Effect) : Prop where
  once : (e.parts.map Part.key).Nodup
  known : ∀ p ∈ e.parts, p.Known

/-- An effect with one action, which is known, has nothing else but modifiers. -/
theorem tidy_of_read {v : Value} {e : Effect} {key : String} (h : read v = .fits e)
    (one : e.writtenActions = [key]) (known : key ∈ actionKeys) : e.Tidy := by
  obtain ⟨es, rfl, -⟩ := model_eq_fits.1 h
  have named {k : String} {v : Value} (mem : Part.unknown k v ∈ e.parts) :
      k ∈ actionKeys ++ modifierKeys := by
    by_cases plain : k ∈ modifierKeys
    · exact List.mem_append_right _ plain
    · have acts : Part.unknown k v ∈ e.actionParts :=
        List.mem_filter.2 ⟨mem, by simpa [isModifier, Part.key] using plain⟩
      have written : k ∈ e.writtenActions := List.mem_map_of_mem (f := Part.key) acts
      rw [one, List.mem_singleton] at written
      exact List.mem_append_left _ (written ▸ known)
  have none : unknownEntries es = [] := by
    refine List.eq_nil_iff_forall_not_mem.2 fun entry mem => ?_
    have part : Part.unknown entry.1 entry.2 ∈ e.parts := (mem_parts h).2 mem
    exact not_mem_unknownEntries (named part) mem
  refine ⟨parts_keys_nodup h (by simp [none]), fun p mem => ?_⟩
  cases p with
  | unknown k v => exact absurd ((mem_parts h).1 mem) (by simp [Made, none])
  | _ => trivial

variable {e : Effect} {p : Part}

theorem Tidy.lookup (tidy : e.Tidy) (mem : p ∈ e.parts) :
    lookupLast p.key e.entries = some (partEntry p).2 := by
  have there : (partEntry p).2 ≠ .null := by
    have known := tidy.known p mem
    cases p with
    | action a => cases a <;> exact nofun
    | guard c => exact nofun
    | cap n => cases n <;> exact nofun
    | unknown k v => cases known
  refine (lookupLast_eq_some (entries_nodup tidy.once)).2 (mem_entries.2 ⟨⟨p, mem, ?_⟩, there⟩)
  rw [← partEntry_key]

/-- What an effect is written as makes its parts. -/
theorem Tidy.made (tidy : e.Tidy) (mem : p ∈ e.parts) : Made e.entries p := by
  have here := tidy.lookup mem
  have known := tidy.known p mem
  cases p with
  | action a =>
    cases a with
    | giveItem item => exact ⟨_, _, fieldUnder_first here, nofun, Item.read_presentEntries item⟩
    | _ => exact ⟨_, fieldUnder_first here⟩
  | guard c => exact ⟨_, fieldUnder_first here⟩
  | cap n =>
    refine ⟨_, _, fieldUnder_first here, ?_, Number.read_toValue n⟩
    cases n <;> exact nofun
  | unknown k v => cases known

/-- What makes a part stands under a name of its key, and it is a value. -/
theorem made_name {es : Entries} (known : p.Known) (made : Made es p) :
    ∃ k v, lookupLast k es = some v ∧ firstName k = p.key ∧ v ≠ .null := by
  have under {name k : String} {others : List String} {v : Value}
      (found : fieldUnder es (name :: others) = some (k, v))
      (first : ∀ n ∈ name :: others, firstName n = name) (same : name = p.key) (there : v ≠ .null) :
      ∃ k v, lookupLast k es = some v ∧ firstName k = p.key ∧ v ≠ .null := by
    obtain ⟨mem, here⟩ := fieldUnder_key found
    exact ⟨k, v, here, (first k mem).trans same, there⟩
  cases p with
  | action a =>
    cases a with
    | giveItem item =>
      obtain ⟨k, v, found, there, -⟩ := made
      exact under found (by decide) rfl there
    | _ =>
      obtain ⟨k, found⟩ := made
      exact under found (by decide) rfl nofun
  | guard c =>
    obtain ⟨k, found⟩ := made
    exact under found (by decide) rfl nofun
  | cap n =>
    obtain ⟨k, v, found, there, -⟩ := made
    exact under found (by decide) rfl there
  | unknown k v => cases known

theorem firstName_key {k : String} (named : k ∈ actionKeys ++ modifierKeys) : firstName k = k := by
  have all : ∀ k ∈ actionKeys ++ modifierKeys, firstName k = k := by decide
  exact all k named

theorem Tidy.no_unknownEntries (tidy : e.Tidy) : unknownEntries e.entries = [] := by
  refine List.eq_nil_iff_forall_not_mem.2 fun ⟨k, v⟩ mem => ?_
  obtain ⟨⟨p, inside, same⟩, -⟩ := mem_entries.1 (List.mem_filter.1 mem).1
  have named : k = p.key := by rw [← partEntry_key, same]
  exact not_mem_unknownEntries (named ▸ (tidy.known p inside).key_mem) mem

/-- A part whose key is neither that of an item nor that of a cap is written as a text. -/
theorem partEntry_text (known : p.Known) (item : p.key ≠ "give_item") (cap : p.key ≠ "cap") :
    ∃ s, (partEntry p).2 = .text s := by
  cases p with
  | action a =>
    cases a with
    | giveItem i => exact absurd rfl item
    | _ => exact ⟨_, rfl⟩
  | guard c => exact ⟨c, rfl⟩
  | cap n => exact absurd rfl cap
  | unknown k v => cases known

theorem fieldParts_fits {α : Type} {es : Entries} {names : List String} {read : Reader α}
    {part : α → Part} (h : ∀ k v, fieldUnder es names = some (k, v) → ∃ a, read v = .fits a) :
    ∃ l, fieldParts es names read part = .fits l := by
  have field : ∃ r, optional es names none (nullable read) = .fits r := by
    cases found : fieldUnder es names with
    | none => exact ⟨none, optional_eq_fits.2 (.inl ⟨found, rfl⟩)⟩
    | some kv =>
      obtain ⟨k, v⟩ := kv
      obtain ⟨a, fit⟩ := h k v found
      by_cases null : v = .null
      · exact ⟨none, optional_eq_fits.2 (.inr ⟨k, v, found, nullable_eq_fits.2 (.inl ⟨null, rfl⟩)⟩)⟩
      · exact ⟨some a, optional_eq_fits.2
          (.inr ⟨k, v, found, nullable_eq_fits.2 (.inr ⟨a, null, fit, rfl⟩)⟩)⟩
  obtain ⟨r, field⟩ := field
  exact ⟨_, Checked.map_eq_fits.2 ⟨r, field, rfl⟩⟩

theorem Tidy.textParts_fits (tidy : e.Tidy) {names : List String} {part : String → Part}
    (item : "give_item" ∉ names) (cap : "cap" ∉ names) :
    ∃ l, fieldParts e.entries names text part = .fits l := by
  refine fieldParts_fits fun k v found => ?_
  obtain ⟨mem, here⟩ := fieldUnder_key found
  obtain ⟨p, inside, entry, rfl⟩ := written_part here
  obtain ⟨s, written⟩ := partEntry_text (tidy.known p inside)
    (fun same => item (same ▸ mem)) (fun same => cap (same ▸ mem))
  rw [entry] at written
  exact ⟨s, text_eq_fits.2 written⟩

theorem Tidy.itemParts_fits (tidy : e.Tidy) {part : Item → Part} :
    ∃ l, fieldParts e.entries ["give_item"] Item.read part = .fits l := by
  refine fieldParts_fits fun k v found => ?_
  obtain ⟨p, inside, entry, named⟩ := written_part (fieldUnder_only found)
  have known := tidy.known p inside
  cases p with
  | action a =>
    cases a with
    | giveItem item =>
      cases entry
      exact ⟨item, Item.read_presentEntries item⟩
    | _ => simp [Part.key, Action.key] at named
  | guard c => simp [Part.key] at named
  | cap n => simp [Part.key] at named
  | unknown k v => cases known

theorem Tidy.capParts_fits (tidy : e.Tidy) {part : Number → Part} :
    ∃ l, fieldParts e.entries ["cap"] number part = .fits l := by
  refine fieldParts_fits fun k v found => ?_
  obtain ⟨p, inside, entry, named⟩ := written_part (fieldUnder_only found)
  have known := tidy.known p inside
  cases p with
  | cap n =>
    cases entry
    exact ⟨n, Number.read_toValue n⟩
  | action a => cases a <;> simp [Part.key, Action.key] at named
  | guard c => simp [Part.key] at named
  | unknown k v => cases known

theorem exists_foldr_append {cs : List (Checked (List Part))} (h : ∀ c ∈ cs, ∃ l, c = .fits l) :
    ∃ ps, cs.foldr (fun c r => (· ++ ·) <$> c <*> r) (pure []) = .fits ps := by
  induction cs with
  | nil => exact ⟨[], rfl⟩
  | cons c rest ih =>
    obtain ⟨⟨l, rfl⟩, others⟩ := List.forall_mem_cons.1 h
    obtain ⟨ps, fit⟩ := ih others
    exact ⟨l ++ ps, by rw [List.foldr_cons, fit]; rfl⟩

/-- An effect can be read if each of its known fields can. -/
theorem exists_read {es : Entries} (fields : ∀ c ∈ knownParts es, ∃ l, c = .fits l) :
    ∃ e, read (.mapping es) = .fits e := by
  obtain ⟨ps, known⟩ := exists_foldr_append fields
  exact ⟨_, (read_mapping es).trans (Checked.map_eq_fits.2 ⟨ps, known, rfl⟩)⟩

/-- What a tidy effect is written as is read, with the same parts. -/
theorem Tidy.read_toValue (tidy : e.Tidy) :
    ∃ f, read e.toValue = .fits f ∧ f.parts.Perm e.parts := by
  have fields : ∀ c ∈ knownParts e.entries, ∃ l, c = .fits l := by
    simp only [knownParts, List.forall_mem_cons]
    refine ⟨?_, ?_, ?_, ?_, ?_, ?_, tidy.itemParts_fits, ?_, ?_, ?_, tidy.capParts_fits,
      List.forall_mem_nil _⟩ <;>
      exact tidy.textParts_fits (by decide) (by decide)
  obtain ⟨f, fit⟩ := exists_read fields
  have once : (f.parts.map Part.key).Nodup :=
    parts_keys_nodup fit (by simp [tidy.no_unknownEntries])
  have kept : ∀ p ∈ e.parts, p ∈ f.parts := fun p mem => (mem_parts fit).2 (tidy.made mem)
  refine ⟨f, fit, (List.perm_ext_iff_of_nodup once.of_map tidy.once.of_map).2
    fun p => ⟨fun mem => ?_, kept p⟩⟩
  have made := (mem_parts fit).1 mem
  have named : p.Known := by
    cases p with
    | unknown k v =>
      have left : (k, v) ∈ unknownEntries e.entries := made
      rw [tidy.no_unknownEntries] at left
      cases left
    | _ => trivial
  obtain ⟨k, v, here, first, -⟩ := made_name named made
  obtain ⟨q, inside, -, rfl⟩ := written_part here
  rw [firstName_key (tidy.known q inside).key_mem] at first
  obtain rfl : q = p := List.inj_on_of_nodup_map once (kept q inside) mem first
  exact inside

/-- An effect as it is read from what it is written as. One that cannot be read stays as it is. -/
def reloaded (e : Effect) : Effect :=
  match read e.toValue with
  | .fits f => f
  | .misfits _ => e

theorem Tidy.read_reloaded (tidy : e.Tidy) : read e.toValue = .fits e.reloaded := by
  obtain ⟨f, fit, -⟩ := tidy.read_toValue
  rw [reloaded, fit]

theorem Tidy.parts_reloaded (tidy : e.Tidy) : e.reloaded.parts.Perm e.parts := by
  obtain ⟨f, fit, same⟩ := tidy.read_toValue
  rw [reloaded, fit]
  exact same

/-- Of parts with different keys, at most one has what only those with some key have. -/
theorem findSome?_eq_some {α : Type} {ps : List Part} {key : String} {f : Part → Option α} {a : α}
    (once : (ps.map Part.key).Nodup) (keyed : ∀ p b, f p = some b → p.key = key) :
    ps.findSome? f = some a ↔ ∃ p ∈ ps, f p = some a := by
  constructor
  · exact List.exists_of_findSome?_eq_some
  · rintro ⟨p, mem, made⟩
    have some : (ps.findSome? f).isSome := List.findSome?_isSome_iff.2 ⟨p, mem, by simp [made]⟩
    obtain ⟨b, found⟩ := Option.isSome_iff_exists.1 some
    obtain ⟨q, inside, other⟩ := List.exists_of_findSome?_eq_some found
    have same : q.key = p.key := (keyed q b other).trans (keyed p a made).symm
    obtain rfl : q = p := List.inj_on_of_nodup_map once inside mem same
    rw [found, ← other, made]

theorem findSome?_perm {α : Type} {ps qs : List Part} {f : Part → Option α} (key : String)
    (perm : ps.Perm qs) (once : (qs.map Part.key).Nodup)
    (keyed : ∀ p b, f p = some b → p.key = key) : ps.findSome? f = qs.findSome? f := by
  have onceMore : (ps.map Part.key).Nodup := (perm.map Part.key).nodup_iff.2 once
  refine Option.ext fun a => ?_
  rw [findSome?_eq_some onceMore keyed, findSome?_eq_some once keyed]
  simp only [perm.mem_iff]

/-- The order of parts does not matter to the guard. -/
theorem guard?_perm {f : Effect} (perm : f.parts.Perm e.parts) (tidy : e.Tidy) :
    f.guard? = e.guard? :=
  findSome?_perm "if" perm tidy.once fun p c made => by cases p <;> cases made; rfl

theorem cap?_perm {f : Effect} (perm : f.parts.Perm e.parts) (tidy : e.Tidy) :
    f.cap? = e.cap? :=
  findSome?_perm "cap" perm tidy.once fun p n made => by cases p <;> cases made; rfl

/-- Nor does it matter to the action if there is only one. -/
theorem actionParts_perm {f : Effect} {key : String} (perm : f.parts.Perm e.parts)
    (one : e.writtenActions = [key]) : f.actionParts = e.actionParts := by
  obtain ⟨p, only, -⟩ := List.map_eq_singleton_iff.1 one
  have kept : f.actionParts.Perm e.actionParts := perm.filter _
  rw [only] at kept ⊢
  exact List.perm_singleton.1 kept

end Effect

end Storyworld
