import Mathlib.Data.List.Nodup
import Storyworld.Value

/-!
Look-ups in entries and changes of them. A key has a value if and only if an entry has that key, and
a change of a value under a key that is there leaves all keys as they are.
-/

namespace Storyworld

variable {α : Type}

theorem lookupLast_isSome {key : String} {m : List (String × α)} :
    (lookupLast key m).isSome ↔ key ∈ m.map Prod.fst := by
  induction m with
  | nil => simp [lookupLast]
  | cons e rest ih =>
    obtain ⟨k, v⟩ := e
    cases later : lookupLast key rest with
    | some w =>
      rw [later] at ih
      simp only [lookupLast, later, List.map_cons, List.mem_cons, ← ih]
      simp
    | none =>
      rw [later] at ih
      simp only [lookupLast, later, List.map_cons, List.mem_cons, ← ih]
      by_cases same : k = key
      · simp [same]
      · simp [same, Ne.symm same]

theorem exists_lookupLast {key : String} {m : List (String × α)} (h : key ∈ m.map Prod.fst) :
    ∃ v, lookupLast key m = some v :=
  Option.isSome_iff_exists.1 (lookupLast_isSome.2 h)

theorem lookupLast_mem {key : String} {v : α} {m : List (String × α)}
    (h : lookupLast key m = some v) : (key, v) ∈ m := by
  induction m with
  | nil => cases h
  | cons e rest ih =>
    obtain ⟨k, w⟩ := e
    simp only [lookupLast] at h
    split at h
    · rename_i later
      cases h
      exact List.mem_cons_of_mem _ (ih later)
    · split at h
      · rename_i same
        cases h
        rw [same]
        exact List.mem_cons_self
      · cases h

theorem lookupLast_key {key : String} {v : α} {m : List (String × α)}
    (h : lookupLast key m = some v) : key ∈ m.map Prod.fst :=
  List.mem_map_of_mem (lookupLast_mem h)

/-- Where every key stands once, a look-up finds any entry that there is. -/
theorem lookupLast_eq_some {key : String} {v : α} {m : List (String × α)}
    (once : (m.map Prod.fst).Nodup) : lookupLast key m = some v ↔ (key, v) ∈ m := by
  refine ⟨lookupLast_mem, fun mem => ?_⟩
  obtain ⟨w, found⟩ := exists_lookupLast (List.mem_map_of_mem mem)
  have same := List.inj_on_of_nodup_map once mem (lookupLast_mem found) rfl
  cases same
  exact found

theorem lookupLast_mapKeyed {β : Type} (f : String → α → β) (key : String)
    (m : List (String × α)) :
    lookupLast key (m.map fun e => (e.1, f e.1 e.2)) = (lookupLast key m).map (f key) := by
  induction m with
  | nil => rfl
  | cons e rest ih =>
    obtain ⟨k, v⟩ := e
    rw [List.map_cons, lookupLast, lookupLast, ih]
    cases lookupLast key rest with
    | some w => rfl
    | none =>
      by_cases same : k = key
      · simp [same]
      · simp [same]

theorem lookupLast_map {β : Type} (f : α → β) (key : String) (m : List (String × α)) :
    lookupLast key (m.map fun e => (e.1, f e.2)) = (lookupLast key m).map f :=
  lookupLast_mapKeyed (fun _ => f) key m

theorem lookupLast_append (key : String) (m n : List (String × α)) :
    lookupLast key (m ++ n) = (lookupLast key n).or (lookupLast key m) := by
  induction m with
  | nil => simp [lookupLast]
  | cons e m ih =>
    obtain ⟨k, v⟩ := e
    rw [List.cons_append, lookupLast, ih, lookupLast]
    cases lookupLast key n <;> cases lookupLast key m <;> rfl

theorem putEntry_keys {key : String} {v : α} {m : List (String × α)}
    (h : key ∈ m.map Prod.fst) : (putEntry key v m).map Prod.fst = m.map Prod.fst := by
  induction m with
  | nil => cases h
  | cons e rest ih =>
    obtain ⟨k, w⟩ := e
    by_cases same : k = key
    · simp [putEntry, same]
    · have inside : key ∈ rest.map Prod.fst := by simpa [Ne.symm same] using h
      simp [putEntry, same, ih inside]

theorem putEntry_new {key : String} {v : α} {m : List (String × α)}
    (h : key ∉ m.map Prod.fst) : putEntry key v m = m ++ [(key, v)] := by
  induction m with
  | nil => rfl
  | cons e rest ih =>
    obtain ⟨k, w⟩ := e
    simp only [List.map_cons, List.mem_cons, not_or] at h
    simp [putEntry, Ne.symm h.1, ih h.2]

theorem lookupLast_putEntry_ne {key k : String} (other : k ≠ key) (v : α) (m : List (String × α)) :
    lookupLast k (putEntry key v m) = lookupLast k m := by
  induction m with
  | nil => simp [putEntry, lookupLast, Ne.symm other]
  | cons e rest ih =>
    obtain ⟨k', w⟩ := e
    by_cases here : k' = key
    · simp [putEntry, lookupLast, here, Ne.symm other]
    · simp [putEntry, lookupLast, here, ih]

/-- A change under a key changes the first entry of that key. A look-up finds the new value, unless
the key has another entry behind that one. -/
theorem lookupLast_putEntry_self {key : String} (v : α) {w : α} {m : List (String × α)}
    (known : lookupLast key m = some w) :
    lookupLast key (putEntry key v m) = some v ∨ lookupLast key (putEntry key v m) = some w := by
  induction m with
  | nil => cases known
  | cons e rest ih =>
    obtain ⟨k, u⟩ := e
    by_cases here : k = key
    · cases later : lookupLast key rest <;> simp_all [putEntry, lookupLast]
    · have inside : lookupLast key rest = some w := by
        cases later : lookupLast key rest <;> simp_all [lookupLast]
      have changed := ih inside
      simp only [putEntry, here, if_false, lookupLast]
      obtain new | old := changed
      · simp [new]
      · simp [old]

/-- A change under a key keeps what the new value has in common with the old one. -/
theorem lookupLast_putEntry_map {β : Type} {f : α → β} {key : String} {v w : α}
    {m : List (String × α)} (known : lookupLast key m = some w) (same : f v = f w) (k : String) :
    (lookupLast k (putEntry key v m)).map f = (lookupLast k m).map f := by
  induction m with
  | nil => cases known
  | cons e rest ih =>
    obtain ⟨k', u⟩ := e
    by_cases here : k' = key
    · subst here
      simp only [putEntry, if_true, lookupLast]
      cases later : lookupLast k rest with
      | some x => rfl
      | none =>
        by_cases asked : k' = k
        · subst asked
          simp only [lookupLast, later, if_true, Option.some.injEq] at known
          simp [same, known]
        · simp [asked]
    · have inside : lookupLast key rest = some w := by
        cases later : lookupLast key rest <;> simp_all [lookupLast]
      have others := ih inside
      simp only [putEntry, here, if_false, lookupLast]
      cases new : lookupLast k (putEntry key v rest) <;> cases old : lookupLast k rest <;>
        simp_all

theorem mem_putEntry {key k : String} {v w : α} {m : List (String × α)}
    (h : (k, w) ∈ putEntry key v m) : (k = key ∧ w = v) ∨ (k, w) ∈ m := by
  induction m with
  | nil => simpa [putEntry] using h
  | cons e rest ih =>
    obtain ⟨k', w'⟩ := e
    simp only [putEntry] at h
    split at h
    · rename_i same
      obtain first | inside := List.mem_cons.1 h
      · cases first
        exact .inl ⟨same, rfl⟩
      · exact .inr (List.mem_cons_of_mem _ inside)
    · obtain first | inside := List.mem_cons.1 h
      · cases first
        exact .inr List.mem_cons_self
      · exact (ih inside).imp_right (List.mem_cons_of_mem _)

theorem putEntry_self (key : String) (v : α) (m : List (String × α)) :
    (key, v) ∈ putEntry key v m := by
  induction m with
  | nil => exact List.mem_singleton_self _
  | cons e rest ih =>
    obtain ⟨k, w⟩ := e
    by_cases same : k = key
    · simp [putEntry, same]
    · simp [putEntry, same, ih]

theorem mem_foldl_putEntry {entries m : List (String × α)} {e : String × α}
    (h : e ∈ entries.foldl (fun m e => putEntry e.1 e.2 m) m) : e ∈ m ∨ e ∈ entries := by
  induction entries generalizing m with
  | nil => exact .inl h
  | cons first rest ih =>
    obtain inside | later := ih h
    · obtain new | old := mem_putEntry inside
      · exact .inr (List.mem_cons.2 (.inl (Prod.ext new.1 new.2)))
      · exact .inl old
    · exact .inr (List.mem_cons_of_mem _ later)

theorem mem_of_mem_mergeEntries {entries : List (String × α)} {e : String × α}
    (h : e ∈ mergeEntries entries) : e ∈ entries :=
  (mem_foldl_putEntry h).resolve_left (List.not_mem_nil)

theorem mem_putEntry_keys {key k : String} {v : α} {m : List (String × α)} :
    k ∈ (putEntry key v m).map Prod.fst ↔ k = key ∨ k ∈ m.map Prod.fst := by
  by_cases here : key ∈ m.map Prod.fst
  · rw [putEntry_keys here]
    constructor
    · exact .inr
    · rintro (rfl | old)
      · exact here
      · exact old
  · rw [putEntry_new here, List.map_append, List.mem_append, or_comm]
    simp

theorem mem_mergeEntries_keys {k : String} {entries : List (String × α)} :
    k ∈ (mergeEntries entries).map Prod.fst ↔ k ∈ entries.map Prod.fst := by
  have folded : ∀ (es m : List (String × α)),
      k ∈ (es.foldl (fun m e => putEntry e.1 e.2 m) m).map Prod.fst ↔
        k ∈ m.map Prod.fst ∨ k ∈ es.map Prod.fst := by
    intro es
    induction es with
    | nil => simp
    | cons e rest ih =>
      intro m
      rw [List.foldl_cons, ih, mem_putEntry_keys, List.map_cons, List.mem_cons]
      tauto
  rw [mergeEntries, folded]
  simp

theorem putEntry_nodup {key : String} {v : α} {m : List (String × α)}
    (once : (m.map Prod.fst).Nodup) : ((putEntry key v m).map Prod.fst).Nodup := by
  by_cases here : key ∈ m.map Prod.fst
  · rwa [putEntry_keys here]
  · rw [putEntry_new here, List.map_append]
    exact List.concat_eq_append ▸ once.concat here

theorem mergeEntries_nodup (entries : List (String × α)) :
    ((mergeEntries entries).map Prod.fst).Nodup := by
  have folded : ∀ (es m : List (String × α)), (m.map Prod.fst).Nodup →
      ((es.foldl (fun m e => putEntry e.1 e.2 m) m).map Prod.fst).Nodup := by
    intro es
    induction es with
    | nil => exact fun _ once => once
    | cons e rest ih => exact fun m once => ih _ (putEntry_nodup once)
  exact folded entries [] List.nodup_nil

/-- Entries that have every key once are merged already. -/
theorem mergeEntries_of_nodup {entries : List (String × α)}
    (once : (entries.map Prod.fst).Nodup) : mergeEntries entries = entries := by
  have folded : ∀ (es m : List (String × α)), ((m ++ es).map Prod.fst).Nodup →
      es.foldl (fun m e => putEntry e.1 e.2 m) m = m ++ es := by
    intro es
    induction es with
    | nil => simp
    | cons e rest ih =>
      intro m once
      have new : e.1 ∉ m.map Prod.fst := by
        simp only [List.map_append, List.map_cons, List.nodup_append] at once
        exact fun old => once.2.2 _ old _ List.mem_cons_self rfl
      have later : ((m ++ [e]) ++ rest) = m ++ e :: rest := by simp
      rw [List.foldl_cons, putEntry_new new, ih _ (by rw [later]; exact once), later]
  exact folded entries [] once

end Storyworld
