import Storyworld.Effect
import Storyworld.Proofs.Schema.Fits

/-!
The parts of an effect that was read. Each part comes from one entry: from the one that is found
under the names of its key, or, if its key is unknown, from the entry itself.
-/

namespace Storyworld.Effect

open Schema

/-- The text that is found under some names. -/
def TextUnder (es : Entries) (names : List String) (s : String) : Prop :=
  ∃ k, fieldUnder es names = some (k, .text s)

/-- The parts that entries make. -/
def Made (es : Entries) : Part → Prop
  | .action (.add s) => TextUnder es ["add"] s
  | .action (.set s) => TextUnder es ["set", "set_"] s
  | .action (.track s) => TextUnder es ["track"] s
  | .action (.log s) => TextUnder es ["log"] s
  | .action (.secret s) => TextUnder es ["secret"] s
  | .action (.agreement s) => TextUnder es ["agreement"] s
  | .action (.giveItem item) =>
    ∃ k v, fieldUnder es ["give_item"] = some (k, v) ∧ v ≠ .null ∧ Item.read v = .fits item
  | .action (.removeItem s) => TextUnder es ["remove_item"] s
  | .action (.addKnownTarget s) => TextUnder es ["addKnownTarget", "add_known_target"] s
  | .guard s => TextUnder es ["if", "if_"] s
  | .cap n => ∃ k v, fieldUnder es ["cap"] = some (k, v) ∧ v ≠ .null ∧ Schema.number v = .fits n
  | .unknown k v => (k, v) ∈ unknownEntries es

/-- A known field as a list of at most one part. -/
def fieldParts {α : Type} (es : Entries) (names : List String) (read : Reader α)
    (part : α → Part) : Checked (List Part) :=
  (optional es names none (nullable read)).map fun r => (r.map part).toList

def knownParts (es : Entries) : List (Checked (List Part)) := [
    fieldParts es ["add"] text fun s => .action (.add s),
    fieldParts es ["set", "set_"] text fun s => .action (.set s),
    fieldParts es ["track"] text fun s => .action (.track s),
    fieldParts es ["log"] text fun s => .action (.log s),
    fieldParts es ["secret"] text fun s => .action (.secret s),
    fieldParts es ["agreement"] text fun s => .action (.agreement s),
    fieldParts es ["give_item"] Item.read fun i => .action (.giveItem i),
    fieldParts es ["remove_item"] text fun s => .action (.removeItem s),
    fieldParts es ["addKnownTarget", "add_known_target"] text fun s => .action (.addKnownTarget s),
    fieldParts es ["if", "if_"] text .guard,
    fieldParts es ["cap"] Schema.number .cap]

theorem read_mapping (es : Entries) :
    read (.mapping es) =
      ((knownParts es).foldr (fun c r => (· ++ ·) <$> c <*> r) (pure [])).map fun ps =>
        ⟨inWrittenOrder es (ps ++ (unknownEntries es).map fun e => .unknown e.1 e.2)⟩ := rfl

theorem mem_foldr_append {cs : List (Checked (List Part))} {ps : List Part}
    (h : cs.foldr (fun c r => (· ++ ·) <$> c <*> r) (pure []) = .fits ps) {p : Part} :
    p ∈ ps ↔ ∃ c ∈ cs, ∃ l, c = .fits l ∧ p ∈ l := by
  induction cs generalizing ps with
  | nil =>
    cases h
    simp
  | cons c rest ih =>
    obtain ⟨g, more, first, others, rfl⟩ := Checked.seq_eq_fits.1 h
    obtain ⟨l, rfl, rfl⟩ := Checked.map_eq_fits.1 first
    simp [ih others]

theorem mem_fieldParts {α : Type} {es : Entries} {names : List String} {read : Reader α}
    {part : α → Part} {p : Part} :
    (∃ l, fieldParts es names read part = .fits l ∧ p ∈ l) ↔
      ∃ k v a, fieldUnder es names = some (k, v) ∧ v ≠ .null ∧ read v = .fits a ∧ p = part a := by
  have mapped {l : List Part} : fieldParts es names read part = .fits l ↔
      ∃ r, optional es names none (nullable read) = .fits r ∧ (r.map part).toList = l :=
    Checked.map_eq_fits
  simp only [mapped, optional_eq_fits, nullable_eq_fits]
  constructor
  · rintro ⟨l, ⟨r, ⟨-, rfl⟩ | ⟨k, v, found, ⟨-, rfl⟩ | ⟨a, there, fit, rfl⟩⟩, rfl⟩, mem⟩
    · cases mem
    · cases mem
    · exact ⟨k, v, a, found, there, fit, by simpa using mem⟩
  · rintro ⟨k, v, a, found, there, fit, rfl⟩
    exact ⟨[part a], ⟨some a, .inr ⟨k, v, found, .inr ⟨a, there, fit, rfl⟩⟩, rfl⟩, by simp⟩

theorem mem_textParts {es : Entries} {names : List String} {part : String → Part} {p : Part} :
    (∃ l, fieldParts es names text part = .fits l ∧ p ∈ l) ↔
      ∃ s, TextUnder es names s ∧ p = part s := by
  rw [mem_fieldParts]
  constructor
  · rintro ⟨k, v, s, found, -, fit, rfl⟩
    cases text_eq_fits.1 fit
    exact ⟨s, ⟨k, found⟩, rfl⟩
  · rintro ⟨s, ⟨k, found⟩, rfl⟩
    exact ⟨k, .text s, s, found, nofun, rfl, rfl⟩

theorem foldr_append_fits {cs : List (Checked (List Part))} {ps : List Part}
    (h : cs.foldr (fun c r => (· ++ ·) <$> c <*> r) (pure []) = .fits ps) :
    ∀ c ∈ cs, ∃ l, c = .fits l := by
  induction cs generalizing ps with
  | nil => exact nofun
  | cons c rest ih =>
    obtain ⟨g, more, first, others, -⟩ := Checked.seq_eq_fits.1 h
    obtain ⟨l, rfl, -⟩ := Checked.map_eq_fits.1 first
    exact List.forall_mem_cons.2 ⟨⟨l, rfl⟩, ih others⟩

/-- An effect is read if every known field is, and then it has their parts and the unknown ones. -/
theorem read_parts {es : Entries} {e : Effect} (h : read (.mapping es) = .fits e) :
    (∀ c ∈ knownParts es, ∃ l, c = .fits l) ∧ ∀ p, p ∈ e.parts ↔
      (∃ c ∈ knownParts es, ∃ l, c = .fits l ∧ p ∈ l) ∨
        p ∈ (unknownEntries es).map fun e => .unknown e.1 e.2 := by
  rw [read_mapping] at h
  obtain ⟨ps, known, rfl⟩ := Checked.map_eq_fits.1 h
  have sorted {q : Part} {qs : List Part} : q ∈ inWrittenOrder es qs ↔ q ∈ qs :=
    (List.mergeSort_perm ..).mem_iff
  refine ⟨foldr_append_fits known, fun p => ?_⟩
  rw [sorted, List.mem_append, mem_foldr_append known]

/-- The parts of an effect are those that its entries make. -/
theorem mem_parts {es : Entries} {e : Effect} (h : read (.mapping es) = .fits e) {p : Part} :
    p ∈ e.parts ↔ Made es p := by
  rw [(read_parts h).2]
  simp only [knownParts, List.mem_cons, List.not_mem_nil, or_false, exists_eq_or_imp,
    exists_eq_left, mem_textParts, mem_fieldParts]
  cases p with
  | action a => cases a <;> simp [Made]
  | guard s => simp [Made]
  | cap n => simp [Made]
  | unknown k v => simp [Made]

/-- A known field that has a value makes a part. -/
theorem field_part {α : Type} {es : Entries} {e : Effect} {names : List String} {k : String}
    {v : Value} {read : Reader α} {part : α → Part} (h : Effect.read (.mapping es) = .fits e)
    (listed : fieldParts es names read part ∈ knownParts es)
    (found : fieldUnder es names = some (k, v)) (there : v ≠ .null) : ∃ a, part a ∈ e.parts := by
  obtain ⟨fit, mem⟩ := read_parts h
  obtain ⟨l, field⟩ := fit _ listed
  obtain ⟨r, value, rfl⟩ := Checked.map_eq_fits.1 field
  obtain ⟨none, -⟩ | ⟨k', w, same, value⟩ := optional_eq_fits.1 value
  · cases found.symm.trans none
  · cases found.symm.trans same
    obtain ⟨null, -⟩ | ⟨a, -, -, rfl⟩ := nullable_eq_fits.1 value
    · exact absurd null there
    · exact ⟨a, (mem _).2 (.inl ⟨_, listed, _, field, by simp⟩)⟩

/-- Names under which a value is found make a part whose key is the first of them. -/
theorem exists_part {es : Entries} {e : Effect} {names : List String} {k : String} {v : Value}
    (h : read (.mapping es) = .fits e) (named : names ∈ keyNames)
    (found : fieldUnder es names = some (k, v)) (there : v ≠ .null) :
    ∃ p ∈ e.parts, names.head? = some p.key := by
  have made {α : Type} {read : Reader α} {part : α → Part}
      (listed : fieldParts es names read part ∈ knownParts es)
      (keyed : ∀ a, names.head? = some (part a).key) : ∃ p ∈ e.parts, names.head? = some p.key := by
    obtain ⟨a, mem⟩ := field_part h listed found there
    exact ⟨part a, mem, keyed a⟩
  simp only [keyNames, List.mem_cons, List.not_mem_nil, or_false] at named
  obtain rfl | rfl | rfl | rfl | rfl | rfl | rfl | rfl | rfl | rfl | rfl := named
  · exact made (List.mem_of_getElem? (i := 0) rfl) fun _ => rfl
  · exact made (List.mem_of_getElem? (i := 1) rfl) fun _ => rfl
  · exact made (List.mem_of_getElem? (i := 2) rfl) fun _ => rfl
  · exact made (List.mem_of_getElem? (i := 3) rfl) fun _ => rfl
  · exact made (List.mem_of_getElem? (i := 4) rfl) fun _ => rfl
  · exact made (List.mem_of_getElem? (i := 5) rfl) fun _ => rfl
  · exact made (List.mem_of_getElem? (i := 6) rfl) fun _ => rfl
  · exact made (List.mem_of_getElem? (i := 7) rfl) fun _ => rfl
  · exact made (List.mem_of_getElem? (i := 8) rfl) fun _ => rfl
  · exact made (List.mem_of_getElem? (i := 9) rfl) fun _ => rfl
  · exact made (List.mem_of_getElem? (i := 10) rfl) fun _ => rfl

theorem exists_names {k : String} (named : k ∈ actionKeys ++ modifierKeys) :
    ∃ names ∈ keyNames, names.head? = some k := by
  have first : ∀ k ∈ actionKeys ++ modifierKeys, ∃ names ∈ keyNames, names.head? = some k := by
    decide
  exact first k named

/-- A key that has a value under its first name makes a part with that key. -/
theorem exists_part_first {es : Entries} {e : Effect} {key : String} {v : Value}
    (h : read (.mapping es) = .fits e) (known : key ∈ actionKeys ++ modifierKeys)
    (found : lookupLast key es = some v) (there : v ≠ .null) : ∃ p ∈ e.parts, p.key = key := by
  obtain ⟨names, listed, head⟩ := exists_names known
  obtain ⟨rest, rfl⟩ := List.head?_eq_some_iff.1 head
  obtain ⟨p, mem, same⟩ := exists_part h listed (fieldUnder_first found) there
  exact ⟨p, mem, (Option.some.inj same).symm⟩

/-- Fields with different keys make parts with different keys. -/
theorem foldr_append_keys {cs : List (Checked (List Part))} {keys : List String} {ps : List Part}
    (each : List.Forall₂ (fun c key => ∀ l, c = .fits l → (l.map Part.key).Sublist [key]) cs keys)
    (h : cs.foldr (fun c r => (· ++ ·) <$> c <*> r) (pure []) = .fits ps) :
    (ps.map Part.key).Sublist keys := by
  induction each generalizing ps with
  | nil =>
    cases h
    exact .slnil
  | cons first _ ih =>
    obtain ⟨g, more, fit, others, rfl⟩ := Checked.seq_eq_fits.1 h
    obtain ⟨l, rfl, rfl⟩ := Checked.map_eq_fits.1 fit
    rw [List.map_append]
    exact (first l rfl).append (ih others)

theorem fieldParts_keys {α : Type} {es : Entries} {names : List String} {read : Reader α}
    {part : α → Part} {key : String} (keyed : ∀ a, (part a).key = key) :
    ∀ l, fieldParts es names read part = .fits l → (l.map Part.key).Sublist [key] := by
  intro l h
  obtain ⟨r, -, rfl⟩ := Checked.map_eq_fits.1 h
  cases r with
  | none => exact List.nil_sublist _
  | some a => simp [keyed]

/-- A first name is never left over: what stands under it is used. -/
theorem not_mem_unknownEntries {es : Entries} {k : String} {v : Value}
    (named : k ∈ actionKeys ++ modifierKeys) : (k, v) ∉ unknownEntries es := by
  intro mem
  obtain ⟨inside, unused⟩ := List.mem_filter.1 mem
  obtain ⟨names, listed, head⟩ := exists_names named
  obtain ⟨rest, rfl⟩ := List.head?_eq_some_iff.1 head
  obtain ⟨w, here⟩ := exists_lookupLast (List.mem_map_of_mem inside)
  have used : k ∈ keyNames.filterMap fun names => (fieldUnder es names).map Prod.fst :=
    List.mem_filterMap.2 ⟨_, listed, by rw [fieldUnder_first here]; rfl⟩
  simp [used] at unused

/-- An effect whose unknown keys stand once has every key at most once. -/
theorem parts_keys_nodup {es : Entries} {e : Effect} (h : read (.mapping es) = .fits e)
    (unknown : ((unknownEntries es).map Prod.fst).Nodup) : (e.parts.map Part.key).Nodup := by
  rw [read_mapping] at h
  obtain ⟨ps, fit, rfl⟩ := Checked.map_eq_fits.1 h
  have keys : (ps.map Part.key).Sublist (actionKeys ++ modifierKeys) :=
    foldr_append_keys
      (.cons (fieldParts_keys fun _ => rfl) <| .cons (fieldParts_keys fun _ => rfl) <|
        .cons (fieldParts_keys fun _ => rfl) <| .cons (fieldParts_keys fun _ => rfl) <|
        .cons (fieldParts_keys fun _ => rfl) <| .cons (fieldParts_keys fun _ => rfl) <|
        .cons (fieldParts_keys fun _ => rfl) <| .cons (fieldParts_keys fun _ => rfl) <|
        .cons (fieldParts_keys fun _ => rfl) <| .cons (fieldParts_keys fun _ => rfl) <|
        .cons (fieldParts_keys fun _ => rfl) .nil) fit
  have known : (ps.map Part.key).Nodup := keys.nodup (by decide)
  have written : ((unknownEntries es).map fun e => Part.unknown e.1 e.2).map Part.key =
      (unknownEntries es).map Prod.fst := by
    rw [List.map_map]
    rfl
  have apart : ∀ a ∈ ps.map Part.key, ∀ b ∈ (unknownEntries es).map Prod.fst, a ≠ b := by
    rintro a inside b other rfl
    obtain ⟨entry, mem, rfl⟩ := List.mem_map.1 other
    exact not_mem_unknownEntries (keys.subset inside) mem
  have sorted := (List.mergeSort_perm (ps ++ (unknownEntries es).map fun e => .unknown e.1 e.2)
    fun p q => placeOf (es.map fun e => firstName e.1) p.key ≤
      placeOf (es.map fun e => firstName e.1) q.key).map Part.key
  refine sorted.nodup_iff.2 ?_
  rw [List.map_append, written]
  exact List.nodup_append.2 ⟨known, unknown, apart⟩

end Storyworld.Effect
