import Storyworld.Notice

/-!
Results of computations that leave notices. A computation only adds to the notices, so what it
gives does not depend on those that are there already, and results compose like plain ones.
-/

namespace Storyworld

variable {ε δ α β : Type}

theorem bind_eq_ok {x : Except ε α} {f : α → Except ε β} {b : β} :
    x >>= f = .ok b ↔ ∃ a, x = .ok a ∧ f a = .ok b := by
  cases x with
  | error e => exact ⟨(nomatch ·), (nomatch ·.choose_spec.1)⟩
  | ok a => exact ⟨fun h => ⟨a, rfl, h⟩, fun ⟨_, rfl, h⟩ => h⟩

theorem bind_of_ok {x : Except ε α} {f : α → Except ε β} {a : α} {r : Except ε β}
    (h : x = .ok a) (later : f a = r) : x >>= f = r := by
  rw [h]
  exact later

theorem bind_eq_error {x : Except ε α} {f : α → Except ε β} {e : ε} :
    x >>= f = .error e ↔ x = .error e ∨ ∃ a, x = .ok a ∧ f a = .error e := by
  cases x with
  | error e' =>
    constructor
    · intro h
      cases h
      exact .inl rfl
    · rintro (h | ⟨a, h, -⟩)
      · cases h
        rfl
      · cases h
  | ok a =>
    constructor
    · intro h
      exact .inr ⟨a, rfl, h⟩
    · rintro (h | ⟨a', h, later⟩)
      · cases h
      · cases h
        exact later

theorem bind_pure_eq_error {x : Except ε α} {f : α → β} {e : ε} :
    (x >>= fun a => pure (f a)) = .error e ↔ x = .error e := by
  cases x with
  | error e' => exact ⟨fun h => by cases h; rfl, fun h => by cases h; rfl⟩
  | ok a => exact ⟨(nomatch ·), (nomatch ·)⟩

theorem map_eq_ok {x : Except ε α} {f : α → β} {b : β} :
    x.map f = .ok b ↔ ∃ a, x = .ok a ∧ f a = b := by
  cases x <;> simp [Except.map]

theorem map_eq_error {x : Except ε α} {f : α → β} {e : ε} : x.map f = .error e ↔ x = .error e := by
  cases x <;> simp [Except.map]

theorem mapError_eq_ok {x : Except ε α} {f : ε → δ} {a : α} :
    x.mapError f = .ok a ↔ x = .ok a := by
  cases x with
  | error e => exact ⟨(nomatch ·), (nomatch ·)⟩
  | ok b => exact ⟨fun h => by cases h; rfl, fun h => by cases h; rfl⟩

theorem mapError_eq_error {x : Except ε α} {f : ε → δ} {d : δ} :
    x.mapError f = .error d ↔ ∃ e, x = .error e ∧ f e = d := by
  cases x with
  | error e => exact ⟨fun h => ⟨e, rfl, by cases h; rfl⟩, fun ⟨_, rfl, same⟩ => congrArg _ same⟩
  | ok a => exact ⟨(nomatch ·), (nomatch ·.choose_spec.1)⟩

theorem map_mapError (x : Except ε α) (f : ε → δ) (g : α → β) :
    (x.mapError f).map g = (x.map g).mapError f := by
  cases x <;> rfl

theorem mapM_mem {f : α → Except ε β} {as : List α} {bs : List β} (h : as.mapM f = .ok bs) :
    ∀ b ∈ bs, ∃ a ∈ as, f a = .ok b := by
  induction as generalizing bs with
  | nil =>
    cases h
    exact nofun
  | cons a rest ih =>
    rw [List.mapM_cons] at h
    obtain ⟨b, first, h⟩ := bind_eq_ok.1 h
    obtain ⟨more, others, h⟩ := bind_eq_ok.1 h
    cases h
    intro c mem
    obtain rfl | later := List.mem_cons.1 mem
    · exact ⟨a, List.mem_cons_self, first⟩
    · obtain ⟨a', inside, made⟩ := ih others c later
      exact ⟨a', List.mem_cons_of_mem _ inside, made⟩

namespace Noting

/-- The result of a computation, its notices aside. -/
def result (x : Noting ε α) : Except ε α :=
  x.outcome.1

/-- The result is the same whatever notices came before. -/
structure Steady (x : Noting ε α) : Prop where
  same : ∀ notes, ((x.run).run notes).1 = x.result

@[simp] theorem result_pure (a : α) : result (pure a : Noting ε α) = .ok a := rfl

@[simp] theorem result_throw (e : ε) : result (throw e : Noting ε α) = .error e := rfl

@[simp] theorem result_ofExcept (x : Except ε α) : result (ofExcept x) = x := by
  cases x <;> rfl

@[simp] theorem steady_pure (a : α) : Steady (pure a : Noting ε α) := ⟨fun _ => rfl⟩

@[simp] theorem steady_throw (e : ε) : Steady (throw e : Noting ε α) := ⟨fun _ => rfl⟩

@[simp] theorem steady_warn (message : String) : Steady (warn message : Noting ε Unit) :=
  ⟨fun _ => rfl⟩

@[simp] theorem steady_report (message : String) : Steady (report message : Noting ε Unit) :=
  ⟨fun _ => rfl⟩

@[simp] theorem steady_ofExcept (x : Except ε α) : Steady (ofExcept x) := by
  cases x <;> exact ⟨fun _ => rfl⟩

/-- The run of a bind: the second computation starts with what the first has left, such as its
notices. -/
theorem run_bind {σ : Type} (x : ExceptT ε (StateM σ) α) (f : α → ExceptT ε (StateM σ) β)
    (left : σ) :
    ((x >>= f).run).run left =
      match (x.run).run left with
      | (.ok a, later) => ((f a).run).run later
      | (.error e, later) => (.error e, later) := by
  change (ExceptT.bindCont f ((x.run).run left).1) ((x.run).run left).2 = _
  generalize (x.run).run left = r
  obtain ⟨_ | a, later⟩ := r <;> rfl

theorem result_bind (x : Noting ε α) (f : α → Noting ε β) (hf : ∀ a, Steady (f a)) :
    result (x >>= f) = x.result >>= fun a => (f a).result := by
  unfold result outcome
  rw [run_bind]
  generalize (x.run).run [] = r
  obtain ⟨_ | a, later⟩ := r
  · rfl
  · exact (hf a).same later

theorem Steady.bind {x : Noting ε α} {f : α → Noting ε β} (hx : Steady x)
    (hf : ∀ a, Steady (f a)) : Steady (x >>= f) := by
  constructor
  intro notes
  rw [result_bind x f hf, run_bind, ← hx.same notes]
  generalize (x.run).run notes = r
  obtain ⟨_ | a, later⟩ := r
  · rfl
  · exact (hf a).same later

/-- What follows a computation has to be the same only for what it can give. -/
theorem bind_congr_ok {x : Noting ε α} {f g : α → Noting ε β} (hx : Steady x)
    (same : ∀ a, x.result = .ok a → f a = g a) : x >>= f = x >>= g := by
  apply ExceptT.ext
  apply StateT.ext
  intro notes
  rw [run_bind, run_bind]
  have given := hx.same notes
  generalize (x.run).run notes = r at given ⊢
  obtain ⟨_ | a, later⟩ := r
  · rfl
  · dsimp only
    rw [same a given.symm]

theorem adapt_run (f : ε → δ) (x : Noting ε α) (notes : List Notice) :
    ((x.adapt f).run).run notes =
      (((x.run).run notes).1.mapError f, ((x.run).run notes).2) := by
  change (Except.mapError f <$> x.run : StateM (List Notice) _) notes = _
  rfl

@[simp] theorem result_adapt (f : ε → δ) (x : Noting ε α) :
    (x.adapt f).result = x.result.mapError f := by
  unfold result outcome
  rw [adapt_run]

theorem Steady.adapt {f : ε → δ} {x : Noting ε α} (hx : Steady x) : Steady (x.adapt f) := by
  constructor
  intro notes
  rw [adapt_run, result_adapt, hx.same notes]

theorem run_map (f : α → β) (x : Noting ε α) (notes : List Notice) :
    ((f <$> x : Noting ε β).run).run notes =
      (((x.run).run notes).1.map f, ((x.run).run notes).2) := by
  rw [map_eq_pure_bind, run_bind]
  generalize (x.run).run notes = r
  obtain ⟨_ | a, later⟩ := r <;> rfl

@[simp] theorem result_map (f : α → β) (x : Noting ε α) :
    result (f <$> x : Noting ε β) = x.result.map f := by
  unfold result outcome
  rw [run_map]

theorem adapt_map (g : ε → δ) (f : α → β) (x : Noting ε α) :
    adapt g (f <$> x) = f <$> x.adapt g := by
  apply ExceptT.ext
  apply StateT.ext
  intro notes
  rw [adapt_run, run_map, run_map, adapt_run]
  generalize (x.run).run notes = r
  obtain ⟨_ | a, later⟩ := r <;> rfl

theorem adapt_bind (g : ε → δ) (x : Noting ε α) (f : α → Noting ε β) :
    adapt g (x >>= f) = x.adapt g >>= fun a => (f a).adapt g := by
  apply ExceptT.ext
  apply StateT.ext
  intro notes
  rw [adapt_run, run_bind, run_bind, adapt_run]
  generalize (x.run).run notes = r
  obtain ⟨_ | a, later⟩ := r
  · rfl
  · exact (adapt_run g (f a) later).symm

theorem adapt_adapt {γ : Type} (f : ε → δ) (g : δ → γ) (x : Noting ε α) :
    (x.adapt f).adapt g = x.adapt (g ∘ f) := by
  apply ExceptT.ext
  apply StateT.ext
  intro notes
  rw [adapt_run, adapt_run, adapt_run]
  generalize (x.run).run notes = r
  obtain ⟨_ | a, later⟩ := r <;> rfl

theorem adapt_ofExcept (f : ε → δ) (x : Except ε α) :
    (ofExcept x).adapt f = ofExcept (x.mapError f) := by
  cases x <;> rfl

theorem ofExcept_map (f : α → β) (x : Except ε α) : ofExcept (x.map f) = f <$> ofExcept x := by
  cases x <;> rfl

end Noting

end Storyworld
