import Storyworld.Proofs.Effect.Written

/-!
The order of an effect's keys. Keys that count are those of a known field with a value and the
unknown ones. An effect that was read has its parts in the order in which those keys are written,
and the last of them decides what the effect does.
-/

namespace Storyworld

namespace Effect

open Schema

/-- The keys of entries, each under its first name, as they are written. -/
def writtenKeys (es : Entries) : List String :=
  es.map fun x => firstName x.1

/-- Every key stands once, and no field under both of its names. -/
def NamedOnce (es : Entries) : Prop :=
  (writtenKeys es).Nodup

/-- An entry that is no modifier, and that has a value if its key is known. -/
def counts (x : String × Value) : Bool :=
  !modifierKeys.contains (firstName x.1) &&
    (!actionKeys.contains (firstName x.1) || match x.2 with
      | .null => false
      | _ => true)

/-- The keys that count, each under its first name, as they are written. -/
def countedKeys (es : Entries) : List String :=
  (es.filter counts).map fun x => firstName x.1

/-- The value of an action key as it is loaded. -/
def loaded (key : String) (v : Value) : Checked Value :=
  if key = "give_item" then (Item.read v).map Item.toValue else (text v).map .text

theorem counts_iff {k : String} {v : Value} : counts (k, v) = true ↔
    firstName k ∉ modifierKeys ∧ (firstName k ∈ actionKeys → v ≠ .null) := by
  cases v <;> simp [counts]

theorem mem_countedKeys {es : Entries} {key : String} :
    key ∈ countedKeys es ↔ ∃ k v, (k, v) ∈ es ∧ firstName k = key ∧ key ∉ modifierKeys ∧
      (key ∈ actionKeys → v ≠ .null) := by
  simp only [countedKeys, List.mem_map, List.mem_filter, Prod.exists, counts_iff]
  constructor
  · rintro ⟨k, v, ⟨mem, counts⟩, rfl⟩
    exact ⟨k, v, mem, rfl, counts⟩
  · rintro ⟨k, v, mem, rfl, counts⟩
    exact ⟨k, v, ⟨mem, counts⟩, rfl⟩

/-! Places -/

theorem placeOf_getElem {written : List String} (once : written.Nodup) {i : Nat}
    (h : i < written.length) : placeOf written written[i] = i := by
  have found : written.reverse.findIdx? (· == written[i]) = some (written.length - 1 - i) := by
    rw [List.findIdx?_eq_some_iff_getElem]
    have inside : written.length - 1 - i < written.reverse.length := by
      rw [List.length_reverse]
      omega
    have back : written.length - 1 - (written.length - 1 - i) = i := by omega
    refine ⟨inside, ?_, fun j before => ?_⟩
    · simp [back]
    · have other : written.length - 1 - j ≠ i := by omega
      simpa [once.getElem_inj_iff] using other
  rw [placeOf, found]
  dsimp only
  omega

/-- Keys that are written once stand in the order of their places. -/
theorem written_pairwise {written : List String} (once : written.Nodup) :
    written.Pairwise fun a b => placeOf written a ≤ placeOf written b := by
  rw [List.pairwise_iff_getElem]
  intro i j hi hj before
  rw [placeOf_getElem once hi, placeOf_getElem once hj]
  exact Nat.le_of_lt before

theorem placeOf_inj {written : List String} (once : written.Nodup) {a b : String}
    (ha : a ∈ written) (hb : b ∈ written) (same : placeOf written a = placeOf written b) :
    a = b := by
  obtain ⟨i, hi, rfl⟩ := List.getElem_of_mem ha
  obtain ⟨j, hj, rfl⟩ := List.getElem_of_mem hb
  rw [placeOf_getElem once hi, placeOf_getElem once hj] at same
  subst same
  rfl

/-- Two lists of written keys are the same if they have the same keys, each once, and both are in the
order of places. -/
theorem eq_of_places {written as bs : List String} (once : written.Nodup)
    (inside : ∀ b ∈ bs, b ∈ written) (onceA : as.Nodup) (onceB : bs.Nodup)
    (same : ∀ k, k ∈ as ↔ k ∈ bs)
    (sortedA : as.Pairwise fun a b => placeOf written a ≤ placeOf written b)
    (sortedB : bs.Pairwise fun a b => placeOf written a ≤ placeOf written b) : as = bs := by
  refine List.Perm.eq_of_pairwise (fun a b ha hb before after => ?_) sortedA sortedB
    ((List.perm_ext_iff_of_nodup onceA onceB).2 same)
  exact placeOf_inj once (inside a ((same a).1 ha)) (inside b hb) (Nat.le_antisymm before after)

variable {es : Entries} {e : Effect}

theorem parts_pairwise (h : read (.mapping es) = .fits e) :
    (e.parts.map Part.key).Pairwise fun a b =>
      placeOf (writtenKeys es) a ≤ placeOf (writtenKeys es) b := by
  rw [read_mapping] at h
  obtain ⟨ps, -, rfl⟩ := Checked.map_eq_fits.1 h
  have trans (p q r : Part) (first : decide (placeOf (writtenKeys es) p.key ≤
        placeOf (writtenKeys es) q.key) = true)
      (second : decide (placeOf (writtenKeys es) q.key ≤ placeOf (writtenKeys es) r.key) = true) :
      decide (placeOf (writtenKeys es) p.key ≤ placeOf (writtenKeys es) r.key) = true :=
    decide_eq_true (Nat.le_trans (of_decide_eq_true first) (of_decide_eq_true second))
  have total (p q : Part) : (decide (placeOf (writtenKeys es) p.key ≤
        placeOf (writtenKeys es) q.key) ||
      decide (placeOf (writtenKeys es) q.key ≤ placeOf (writtenKeys es) p.key)) = true := by
    simpa using Nat.le_total _ _
  rw [List.pairwise_map]
  exact (List.pairwise_mergeSort trans total _).imp of_decide_eq_true

/-! Parts and entries -/

theorem firstName_of_mem {names : List String} {k : String} (listed : names ∈ keyNames)
    (mem : k ∈ names) : names.head? = some (firstName k) := by
  have all : ∀ names ∈ keyNames, ∀ k ∈ names, names.head? = some (firstName k) := by decide
  exact all names listed k mem

/-- A key that has a first name for a known field is one of the names of that field. -/
theorem exists_names_of_firstName {k : String}
    (known : firstName k ∈ actionKeys ++ modifierKeys) : ∃ names ∈ keyNames, k ∈ names := by
  unfold firstName at known
  split at known
  · rename_i names found
    exact ⟨names, List.mem_of_find?_eq_some found, by simpa using List.find?_some found⟩
  · obtain ⟨names, listed, head⟩ := exists_names known
    exact ⟨names, listed, List.mem_of_head? head⟩

theorem firstName_of_unknown {k : String} (unknown : firstName k ∉ actionKeys ++ modifierKeys) :
    firstName k = k := by
  have all : ∀ names ∈ keyNames, ∀ k ∈ names, firstName k ∈ actionKeys ++ modifierKeys := by
    decide
  cases found : keyNames.find? fun names => names.contains k with
  | none => rw [firstName, found]
  | some names =>
    have named : k ∈ names := by simpa using List.find?_some found
    exact absurd (all names (List.mem_of_find?_eq_some found) k named) unknown

namespace NamedOnce

variable (once : NamedOnce es)

include once

theorem keys : (es.map Prod.fst).Nodup :=
  List.Nodup.of_map firstName (by rwa [List.map_map])

theorem entry_eq {k l : String} {v w : Value} (first : (k, v) ∈ es) (second : (l, w) ∈ es)
    (same : firstName k = firstName l) : k = l ∧ v = w := by
  cases List.inj_on_of_nodup_map once first second same
  exact ⟨rfl, rfl⟩

/-- An entry is found under the names of its field. -/
theorem fieldUnder_eq {names : List String} {k : String} {v : Value} (mem : (k, v) ∈ es)
    (listed : names ∈ keyNames) (named : k ∈ names) : fieldUnder es names = some (k, v) := by
  have here := (lookupLast_eq_some once.keys).2 mem
  have some : (fieldUnder es names).isSome :=
    List.findSome?_isSome_iff.2 ⟨k, named, by simp [here]⟩
  obtain ⟨⟨l, w⟩, found⟩ := Option.isSome_iff_exists.1 some
  obtain ⟨also, there⟩ := fieldUnder_key found
  have same : firstName l = firstName k := Option.some.inj
    ((firstName_of_mem listed also).symm.trans (firstName_of_mem listed named))
  obtain ⟨rfl, rfl⟩ := once.entry_eq (lookupLast_mem there) mem same
  exact found

/-- What is left over is exactly what no field is called. -/
theorem mem_unknownEntries {k : String} {v : Value} :
    (k, v) ∈ unknownEntries es ↔ (k, v) ∈ es ∧ firstName k ∉ actionKeys ++ modifierKeys := by
  have used : (k, v) ∈ es → (k ∈ (keyNames.filterMap fun names =>
      (fieldUnder es names).map Prod.fst) ↔ firstName k ∈ actionKeys ++ modifierKeys) := by
    intro mem
    rw [List.mem_filterMap]
    constructor
    · rintro ⟨names, listed, found⟩
      obtain ⟨⟨l, w⟩, here, rfl⟩ := Option.map_eq_some_iff.1 found
      have all : ∀ names ∈ keyNames, ∀ k ∈ names, firstName k ∈ actionKeys ++ modifierKeys := by
        decide
      exact all names listed l (fieldUnder_key here).1
    · intro known
      obtain ⟨names, listed, named⟩ := exists_names_of_firstName known
      exact ⟨names, listed, by rw [once.fieldUnder_eq mem listed named]; rfl⟩
  rw [unknownEntries, List.mem_filter]
  refine and_congr_right fun mem => ?_
  simp [← used mem]

theorem parts_keys (h : read (.mapping es) = .fits e) : (e.parts.map Part.key).Nodup := by
  refine parts_keys_nodup h (List.Nodup.sublist ?_ once.keys)
  exact List.filter_sublist.map Prod.fst

/-- A part comes from an entry that counts as its key. -/
theorem part_entry (h : read (.mapping es) = .fits e) {p : Part} (mem : p ∈ e.parts) :
    ∃ k v, (k, v) ∈ es ∧ firstName k = p.key ∧ (p.key ∈ actionKeys → v ≠ .null) := by
  have made := (mem_parts h).1 mem
  cases p with
  | unknown k v =>
    obtain ⟨inside, unknown⟩ := once.mem_unknownEntries.1 made
    have same := firstName_of_unknown unknown
    refine ⟨k, v, inside, same, fun known => ?_⟩
    rw [same] at unknown
    exact absurd (List.mem_append_left _ known) unknown
  | _ =>
    obtain ⟨k, v, here, first, there⟩ := made_name (by trivial) made
    exact ⟨k, v, lookupLast_mem here, first, fun _ => there⟩

/-- An entry that counts makes a part with its key. -/
theorem entry_part (h : read (.mapping es) = .fits e) {k : String} {v : Value}
    (mem : (k, v) ∈ es) (counts : firstName k ∈ actionKeys ++ modifierKeys → v ≠ .null) :
    ∃ p ∈ e.parts, p.key = firstName k := by
  by_cases known : firstName k ∈ actionKeys ++ modifierKeys
  · obtain ⟨names, listed, named⟩ := exists_names_of_firstName known
    obtain ⟨p, inside, head⟩ :=
      exists_part h listed (once.fieldUnder_eq mem listed named) (counts known)
    have first := firstName_of_mem listed named
    exact ⟨p, inside, Option.some.inj (head.symm.trans first)⟩
  · have left := once.mem_unknownEntries.2 ⟨mem, known⟩
    exact ⟨.unknown k v, (mem_parts h).2 left, (firstName_of_unknown known).symm⟩

/-- The keys of the actions of an effect are those that count, in the order of writing. -/
theorem writtenActions_eq (h : read (.mapping es) = .fits e) :
    e.writtenActions = countedKeys es := by
  have acts : (e.writtenActions).Sublist (e.parts.map Part.key) := List.filter_sublist.map Part.key
  have counted : (countedKeys es).Sublist (writtenKeys es) := List.filter_sublist.map _
  refine eq_of_places once (fun k mem => counted.subset mem) (acts.nodup (once.parts_keys h))
    (counted.nodup once) (fun key => ?_) ((parts_pairwise h).sublist acts)
    ((written_pairwise once).sublist counted)
  rw [mem_countedKeys, writtenActions, List.mem_map]
  constructor
  · rintro ⟨p, mem, rfl⟩
    obtain ⟨mem, plain⟩ := List.mem_filter.1 mem
    obtain ⟨k, v, inside, first, there⟩ := once.part_entry h mem
    exact ⟨k, v, inside, first, by simpa [isModifier] using plain, there⟩
  · rintro ⟨k, v, inside, rfl, plain, there⟩
    obtain ⟨p, mem, same⟩ := once.entry_part h inside fun known =>
      there ((List.mem_append.1 known).resolve_right plain)
    exact ⟨p, List.mem_filter.2 ⟨mem, by simpa [isModifier, same] using plain⟩, same⟩

end NamedOnce

/-- The last key of the actions decides, if it is that of an action. -/
theorem action?_key (h : read (.mapping es) = .fits e) :
    e.action?.map Action.key = e.writtenActions.getLast?.filter (actionKeys.contains ·) := by
  rw [writtenActions, List.getLast?_map, action?]
  cases last : e.actionParts.getLast? with
  | none => rfl
  | some p =>
    have mem : p ∈ e.parts := (List.mem_filter.1 (List.mem_of_getLast? last)).1
    cases p with
    | action a => cases a <;> rfl
    | guard c => rfl
    | cap n => rfl
    | unknown k v =>
      have unknown : k ∉ actionKeys := fun known =>
        not_mem_unknownEntries (List.mem_append_left _ known) ((mem_parts h).1 mem)
      exact (Option.filter_some_neg (by simpa [Part.key] using unknown)).symm

theorem action?_made (h : read (.mapping es) = .fits e) {a : Action} (does : e.action? = some a) :
    Made es (.action a) := by
  unfold action? at does
  split at does
  · rename_i last
    cases does
    exact (mem_parts h).1 (List.mem_filter.1 (List.mem_of_getLast? last)).1
  · cases does

/-- An action is loaded from the entry of its key. -/
theorem made_loaded {a : Action} (made : Made es (.action a)) :
    ∃ k v, (k, v) ∈ es ∧ firstName k = a.key ∧ v ≠ .null ∧ loaded a.key v = .fits a.payload := by
  have under {name k : String} {others : List String} {v : Value}
      (found : fieldUnder es (name :: others) = some (k, v))
      (listed : name :: others ∈ keyNames) : (k, v) ∈ es ∧ firstName k = name := by
    obtain ⟨mem, here⟩ := fieldUnder_key found
    exact ⟨lookupLast_mem here, (Option.some.inj (firstName_of_mem listed mem)).symm⟩
  cases a with
  | giveItem item =>
    obtain ⟨k, v, found, there, fit⟩ := made
    obtain ⟨mem, first⟩ := under found (by decide)
    exact ⟨k, v, mem, first, there, by simp [loaded, Action.key, fit, Checked.map, Action.payload]⟩
  | _ =>
    obtain ⟨k, found⟩ := made
    obtain ⟨mem, first⟩ := under found (by decide)
    exact ⟨k, _, mem, first, by simp, rfl⟩

theorem payload_ne_null (a : Action) : a.payload ≠ .null := by
  cases a <;> simp [Action.payload, Item.toValue]

/-- The last key that counts decides. Of entries that name every field once, the keys of an effect's
actions are those that are no modifiers and, if known, have a value, under their first names and in
the order of writing. The effect does what the last of them says if that one is known, and else
nothing; and what it does is loaded from the value of that key. -/
theorem last_written_key_decides (once : NamedOnce es) (h : read (.mapping es) = .fits e) :
    e.writtenActions = countedKeys es ∧
      e.action?.map Action.key = (countedKeys es).getLast?.filter (actionKeys.contains ·) ∧
      ∀ a, e.action? = some a → a.payload ≠ .null ∧
        ∃ k v, (k, v) ∈ es ∧ firstName k = a.key ∧ v ≠ .null ∧ loaded a.key v = .fits a.payload := by
  have keys := once.writtenActions_eq h
  refine ⟨keys, keys ▸ action?_key h, fun a does => ?_⟩
  exact ⟨payload_ne_null a, made_loaded (action?_made h does)⟩

/-- A badge that is given beside a line, an unknown key, an absent line and modifiers. -/
def badge : Entries := [
    ("boom", .null),
    ("log", .text "Ding."),
    ("if_", .text "true"),
    ("give_item", .mapping [("id", .text "badge"), ("name", .text "Badge")]),
    ("secret", .null),
    ("cap", .int 2)]

theorem last_written_key_decides_badge :
    NamedOnce badge ∧ ∃ e a, read (.mapping badge) = .fits e ∧
      e.writtenActions = ["boom", "log", "give_item"] ∧ e.action? = some a ∧ a.key = "give_item" ∧
      loaded "give_item" (.mapping [("id", .text "badge"), ("name", .text "Badge")]) =
        .fits a.payload := by
  have once : NamedOnce badge := by
    unfold NamedOnce
    decide
  have fields : ∀ c ∈ knownParts badge, ∃ l, c = .fits l := by
    simp only [knownParts, List.forall_mem_cons]
    exact ⟨⟨_, rfl⟩, ⟨_, rfl⟩, ⟨_, rfl⟩, ⟨_, rfl⟩, ⟨_, rfl⟩, ⟨_, rfl⟩, ⟨_, rfl⟩, ⟨_, rfl⟩,
      ⟨_, rfl⟩, ⟨_, rfl⟩, ⟨_, rfl⟩, List.forall_mem_nil _⟩
  obtain ⟨e, fit⟩ := exists_read fields
  obtain ⟨keys, last, payload⟩ := last_written_key_decides once fit
  have counted : countedKeys badge = ["boom", "log", "give_item"] := by decide
  rw [counted] at keys last
  have given : e.action?.map Action.key = some "give_item" := last.trans (by decide)
  obtain ⟨a, does, key⟩ := Option.map_eq_some_iff.1 given
  obtain ⟨-, k, v, mem, first, -, value⟩ := payload a does
  have written : ("give_item", .mapping [("id", .text "badge"), ("name", .text "Badge")]) ∈
      badge := by
    simp [badge]
  obtain ⟨-, rfl⟩ := once.entry_eq mem written (first.trans key)
  rw [key] at value
  exact ⟨once, e, a, fit, keys, does, key, value⟩

end Effect

end Storyworld
