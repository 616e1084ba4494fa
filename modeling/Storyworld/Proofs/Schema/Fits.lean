import Storyworld.Proofs.Entries
import Storyworld.Schema.Scalar

/-!
When a value fits. A record fits if and only if all of its fields do, a list if and only if all of
its items do, and a field is read from the entry that is found under its names.
-/

namespace Storyworld.Schema

variable {α β : Type}

namespace Checked

theorem map_eq_fits {f : α → β} {x : Checked α} {b : β} :
    f <$> x = .fits b ↔ ∃ a, x = .fits a ∧ f a = b := by
  change map f x = _ ↔ _
  cases x <;> simp [map]

theorem seq_eq_fits {f : Checked (α → β)} {x : Checked α} {b : β} :
    f <*> x = .fits b ↔ ∃ g a, f = .fits g ∧ x = .fits a ∧ g a = b := by
  change ap f x = _ ↔ _
  constructor
  · intro h
    obtain ⟨g, a, hf, hx, hb⟩ := ap_eq_fits h
    exact ⟨g, a, hf, hx, hb.symm⟩
  · rintro ⟨g, a, rfl, rfl, rfl⟩
    rfl

theorem under_eq_fits {s : Step} {x : Checked α} {a : α} :
    x.under s = .fits a ↔ x = .fits a := by
  cases x <;> simp [under]

theorem toExcept_eq_ok {x : Checked α} {a : α} : x.toExcept = .ok a ↔ x = .fits a := by
  cases x <;> simp [toExcept]

theorem toExcept_eq_error {x : Checked α} {ms : List Misfit} :
    x.toExcept = .error ms ↔ x = .misfits ms := by
  cases x <;> simp [toExcept]

end Checked

theorem text_eq_fits {v : Value} {s : String} : text v = .fits s ↔ v = .text s := by
  cases v <;> simp [text, Checked.misfit]

theorem fieldUnder_key {es : Entries} {names : List String} {n : String} {v : Value}
    (h : fieldUnder es names = some (n, v)) : n ∈ names ∧ lookupLast n es = some v := by
  obtain ⟨k, mem, found⟩ := List.exists_of_findSome?_eq_some h
  obtain ⟨w, here, same⟩ := Option.map_eq_some_iff.1 found
  cases same
  exact ⟨mem, here⟩

theorem fieldUnder_first {es : Entries} {n : String} {names : List String} {v : Value}
    (h : lookupLast n es = some v) : fieldUnder es (n :: names) = some (n, v) := by
  simp [fieldUnder, h]

/-- A field that has no second name is found under its name. -/
theorem fieldUnder_only {es : Entries} {n k : String} {v : Value}
    (h : fieldUnder es [n] = some (k, v)) : lookupLast n es = some v := by
  obtain ⟨mem, here⟩ := fieldUnder_key h
  cases List.mem_singleton.1 mem
  exact here

theorem required_here {es : Entries} {n : String} {names : List String} {read : Reader α}
    {v : Value} (here : lookupLast n es = some v) :
    required es (n :: names) read = (read v).under (.key n) := by
  rw [required, fieldUnder_first here]

theorem optional_here {es : Entries} {n : String} {names : List String} {absent : α}
    {read : Reader α} {v : Value} (here : lookupLast n es = some v) :
    optional es (n :: names) absent read = (read v).under (.key n) := by
  rw [optional, fieldUnder_first here]

theorem required_eq_fits {es : Entries} {names : List String} {read : Reader α} {a : α} :
    required es names read = .fits a ↔
      ∃ n v, fieldUnder es names = some (n, v) ∧ read v = .fits a := by
  unfold required
  cases fieldUnder es names with
  | none => simp
  | some f =>
    obtain ⟨n, v⟩ := f
    simp [Checked.under_eq_fits]

theorem optional_eq_fits {es : Entries} {names : List String} {absent a : α} {read : Reader α} :
    optional es names absent read = .fits a ↔
      (fieldUnder es names = none ∧ a = absent) ∨
        ∃ n v, fieldUnder es names = some (n, v) ∧ read v = .fits a := by
  unfold optional
  cases fieldUnder es names with
  | none => simp [eq_comm]
  | some f =>
    obtain ⟨n, v⟩ := f
    simp [Checked.under_eq_fits]

theorem nullable_eq_fits {read : Reader α} {v : Value} {a : Option α} :
    nullable read v = .fits a ↔
      (v = .null ∧ a = none) ∨ ∃ b, v ≠ .null ∧ read v = .fits b ∧ a = some b := by
  cases v with
  | null => simp [nullable, eq_comm]
  | _ =>
    simp only [nullable]
    generalize read _ = r
    cases r <;> simp [Checked.map, eq_comm]

/-- A field that has a value stands in the document. -/
theorem nullable_found {es : Entries} {n : String} {read : Reader α} {a : α}
    (h : optional es [n] none (nullable read) = .fits (some a)) :
    ∃ v, lookupLast n es = some v ∧ v ≠ .null ∧ read v = .fits a := by
  obtain ⟨-, same⟩ | ⟨k, v, found, fit⟩ := optional_eq_fits.1 h
  · cases same
  · obtain ⟨-, same⟩ | ⟨b, there, fit, same⟩ := nullable_eq_fits.1 fit
    · cases same
    · cases same
      exact ⟨v, fieldUnder_only found, there, fit⟩

theorem model_eq_fits {read : Entries → Checked α} {v : Value} {a : α} :
    model read v = .fits a ↔ ∃ es, v = .mapping es ∧ read es = .fits a := by
  cases v <;> simp [model, Checked.misfit]

theorem readItems_eq_fits {read : Reader α} {i : Nat} {vs : List Value} {as : List α} :
    readItems read i vs = .fits as ↔ List.Forall₂ (fun v a => read v = .fits a) vs as := by
  induction vs generalizing i as with
  | nil => cases as <;> simp [readItems]
  | cons v rest ih =>
    simp only [readItems, Checked.seq_eq_fits, Checked.map_eq_fits, Checked.under_eq_fits, ih,
      List.forall₂_cons_left_iff]
    constructor
    · rintro ⟨g, more, ⟨a, first, rfl⟩, others, rfl⟩
      exact ⟨a, more, first, others, rfl⟩
    · rintro ⟨a, more, first, others, rfl⟩
      exact ⟨_, more, ⟨a, first, rfl⟩, others, rfl⟩

theorem list_eq_fits {read : Reader α} {v : Value} {as : List α} :
    list read v = .fits as ↔
      ∃ vs, v = .list vs ∧ List.Forall₂ (fun v a => read v = .fits a) vs as := by
  cases v <;> simp [list, Checked.misfit, readItems_eq_fits]

theorem readEntries_eq_fits {read : Reader α} {es : Entries} {as : List (String × α)} :
    readEntries read es = .fits as ↔
      List.Forall₂ (fun e a => e.1 = a.1 ∧ read e.2 = .fits a.2) es as := by
  induction es generalizing as with
  | nil => cases as <;> simp [readEntries]
  | cons e rest ih =>
    obtain ⟨k, v⟩ := e
    simp only [readEntries, Checked.seq_eq_fits, Checked.map_eq_fits, Checked.under_eq_fits, ih,
      List.forall₂_cons_left_iff]
    constructor
    · rintro ⟨g, more, ⟨a, first, rfl⟩, others, rfl⟩
      exact ⟨(k, a), more, ⟨rfl, first⟩, others, rfl⟩
    · rintro ⟨⟨k', a⟩, more, ⟨rfl, first⟩, others, rfl⟩
      exact ⟨_, more, ⟨a, first, rfl⟩, others, rfl⟩

theorem mapping_eq_fits {read : Reader α} {v : Value} {m : List (String × α)} :
    mapping read v = .fits m ↔ ∃ es as, v = .mapping es ∧
      List.Forall₂ (fun e a => e.1 = a.1 ∧ read e.2 = .fits a.2) es as ∧ mergeEntries as = m := by
  cases v with
  | mapping es =>
    simp only [mapping, Value.mapping.injEq, exists_and_left, exists_eq_left',
      ← readEntries_eq_fits]
    cases readEntries read es <;> simp [Checked.map]
  | _ => simp [mapping, Checked.misfit]

/-- A list whose items are read as what a function makes of them is read as what it makes of all. -/
theorem list_map_written {read : Reader β} {write : α → Value} {f : α → β} {as : List α}
    (each : ∀ a ∈ as, read (write a) = .fits (f a)) :
    list read (.list (as.map write)) = .fits (as.map f) := by
  refine list_eq_fits.2 ⟨_, rfl, ?_⟩
  induction as with
  | nil => exact .nil
  | cons a as ih =>
    have rest := ih fun b mem => each b (List.mem_cons_of_mem _ mem)
    exact .cons (each a List.mem_cons_self) rest

/-- Values that were written from a list are read as that list. -/
theorem list_written {read : Reader α} {write : α → Value}
    (each : ∀ a, read (write a) = .fits a) (as : List α) :
    list read (.list (as.map write)) = .fits as := by
  rw [list_map_written (f := id) fun a _ => each a, List.map_id]

theorem mapping_map_written {read : Reader β} {write : α → Value} {f : α → β}
    {m : List (String × α)} (each : ∀ e ∈ m, read (write e.2) = .fits (f e.2))
    (once : (m.map Prod.fst).Nodup) :
    mapping read (.mapping (m.map fun e => (e.1, write e.2))) =
      .fits (m.map fun e => (e.1, f e.2)) := by
  have same : (m.map fun e => (e.1, f e.2)).map Prod.fst = m.map Prod.fst := by simp
  refine mapping_eq_fits.2 ⟨_, _, rfl, ?_, mergeEntries_of_nodup (same ▸ once)⟩
  clear once same
  induction m with
  | nil => exact .nil
  | cons e m ih =>
    have rest := ih fun g mem => each g (List.mem_cons_of_mem _ mem)
    exact .cons ⟨rfl, each e List.mem_cons_self⟩ rest

theorem mapping_written {read : Reader α} {write : α → Value}
    (each : ∀ a, read (write a) = .fits a) {m : List (String × α)}
    (once : (m.map Prod.fst).Nodup) :
    mapping read (.mapping (m.map fun e => (e.1, write e.2))) = .fits m := by
  rw [mapping_map_written (f := id) (fun e _ => each e.2) once]
  simp

theorem forall₂_mem_right {R : α → β → Prop} {as : List α} {bs : List β}
    (h : List.Forall₂ R as bs) : ∀ b ∈ bs, ∃ a ∈ as, R a b := by
  induction h with
  | nil => exact nofun
  | cons first _ ih =>
    intro b mem
    obtain rfl | later := List.mem_cons.1 mem
    · exact ⟨_, List.mem_cons_self, first⟩
    · obtain ⟨a, inside, related⟩ := ih b later
      exact ⟨a, List.mem_cons_of_mem _ inside, related⟩

/-- An item that was read stands in the list. -/
theorem list_mem {read : Reader α} {vs : List Value} {as : List α}
    (h : list read (.list vs) = .fits as) : ∀ a ∈ as, ∃ v ∈ vs, read v = .fits a := by
  obtain ⟨vs', same, fit⟩ := list_eq_fits.1 h
  cases same
  exact forall₂_mem_right fit

/-- An entry that was read stands in the mapping under its key. -/
theorem mapping_mem {read : Reader α} {es : Entries} {m : List (String × α)}
    (h : mapping read (.mapping es) = .fits m) :
    ∀ k a, (k, a) ∈ m → ∃ v, (k, v) ∈ es ∧ read v = .fits a := by
  obtain ⟨es', as, same, fit, rfl⟩ := mapping_eq_fits.1 h
  cases same
  intro k a mem
  obtain ⟨⟨k', v⟩, inside, rfl, read⟩ := forall₂_mem_right fit (k, a) (mem_of_mem_mergeEntries mem)
  exact ⟨v, inside, read⟩

theorem mapping_keys {read : Reader α} {es : Entries} {m : List (String × α)}
    (h : mapping read (.mapping es) = .fits m) {k : String} :
    k ∈ m.map Prod.fst ↔ k ∈ es.map Prod.fst := by
  obtain ⟨es', as, same, fit, rfl⟩ := mapping_eq_fits.1 h
  cases same
  have keys : es.map Prod.fst = as.map Prod.fst := by
    clear h
    induction fit with
    | nil => rfl
    | cons first _ ih => rw [List.map_cons, List.map_cons, first.1, ih]
  rw [mem_mergeEntries_keys, keys]

/-- A mapping that was read has every key once, also where the document repeats one. -/
theorem mapping_nodup {read : Reader α} {v : Value} {m : List (String × α)}
    (h : mapping read v = .fits m) : (m.map Prod.fst).Nodup := by
  obtain ⟨es, as, -, -, rfl⟩ := mapping_eq_fits.1 h
  exact mergeEntries_nodup as

theorem required_nodup {es : Entries} {names : List String} {read : Reader α}
    {m : List (String × α)} (h : required es names (mapping read) = .fits m) :
    (m.map Prod.fst).Nodup := by
  obtain ⟨n, v, -, fit⟩ := required_eq_fits.1 h
  exact mapping_nodup fit

theorem optional_nodup {es : Entries} {names : List String} {read : Reader α}
    {m : List (String × α)} (h : optional es names [] (mapping read) = .fits m) :
    (m.map Prod.fst).Nodup := by
  obtain ⟨-, same⟩ | ⟨n, v, -, fit⟩ := optional_eq_fits.1 h
  · rw [same]
    exact List.nodup_nil
  · exact mapping_nodup fit

end Storyworld.Schema
