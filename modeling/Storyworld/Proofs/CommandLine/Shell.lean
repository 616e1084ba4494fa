import Storyworld.CommandLine.Shell
import Storyworld.Proofs.Results

/-!
Computations on a shell. Most of what a command does is quiet: it has the same result on every shell
and leaves the files as they are. Results of quiet computations compose like plain ones.
-/

namespace Storyworld.CommandLine.Console

variable {α β : Type}

/-- What a computation gives on a shell, and the shell that it leaves. -/
def outcome (x : Console α) (s : Shell) : Except Mishap α × Shell :=
  (x.run).run s

theorem outcome_bind (x : Console α) (f : α → Console β) (s : Shell) :
    outcome (x >>= f) s =
      match x.outcome s with
      | (.ok a, t) => (f a).outcome t
      | (.error e, t) => (.error e, t) := by
  change (ExceptT.bindCont f ((x.run).run s).1) ((x.run).run s).2 = _
  unfold outcome
  generalize (x.run).run s = r
  obtain ⟨_ | a, t⟩ := r <;> rfl

theorem outcome_bind_eq_ok {x : Console α} {f : α → Console β} {s t : Shell} {b : β} :
    outcome (x >>= f) s = (.ok b, t) ↔
      ∃ a u, x.outcome s = (.ok a, u) ∧ (f a).outcome u = (.ok b, t) := by
  rw [outcome_bind]
  generalize x.outcome s = r
  obtain ⟨e | a, u⟩ := r
  · exact ⟨nofun, fun ⟨_, _, first, _⟩ => nomatch first⟩
  · exact ⟨fun h => ⟨a, u, rfl, h⟩, fun ⟨_, _, first, h⟩ => by cases first; exact h⟩

/-- The result of a computation on a shell with nothing in it. -/
def result (x : Console α) : Except Mishap α :=
  (x.outcome ⟨.empty, "", []⟩).1

/-- The result is the same on every shell, and no file changes. -/
structure Quiet (x : Console α) : Prop where
  same : ∀ s, (x.outcome s).1 = x.result
  files : ∀ s, (x.outcome s).2.files = s.files

@[simp] theorem result_pure (a : α) : result (pure a : Console α) = .ok a := rfl

theorem quiet_pure (a : α) : Quiet (pure a : Console α) := ⟨fun _ => rfl, fun _ => rfl⟩

theorem quiet_throw (e : Mishap) : Quiet (throw e : Console α) := ⟨fun _ => rfl, fun _ => rfl⟩

theorem quiet_put (text : String) : Quiet (put text) := ⟨fun _ => rfl, fun _ => rfl⟩

theorem result_bind {x : Console α} {f : α → Console β} (hx : Quiet x) (hf : ∀ a, Quiet (f a)) :
    result (x >>= f) = x.result >>= fun a => (f a).result := by
  rw [← hx.same ⟨.empty, "", []⟩]
  unfold result
  rw [outcome_bind]
  generalize x.outcome _ = r
  obtain ⟨_ | a, t⟩ := r
  · rfl
  · exact (hf a).same t

theorem result_bind_eq_ok {x : Console α} {f : α → Console β} {b : β} (hx : Quiet x)
    (hf : ∀ a, Quiet (f a)) :
    result (x >>= f) = .ok b ↔ ∃ a, x.result = .ok a ∧ (f a).result = .ok b := by
  rw [result_bind hx hf, bind_eq_ok]

theorem Quiet.bind {x : Console α} {f : α → Console β} (hx : Quiet x) (hf : ∀ a, Quiet (f a)) :
    Quiet (x >>= f) := by
  constructor
  · intro s
    rw [result_bind hx hf, outcome_bind, ← hx.same s]
    generalize x.outcome s = r
    obtain ⟨_ | a, t⟩ := r
    · rfl
    · exact (hf a).same t
  · intro s
    rw [outcome_bind, ← hx.files s]
    generalize x.outcome s = r
    obtain ⟨_ | a, t⟩ := r
    · rfl
    · exact (hf a).files t

theorem quiet_say (line : String) : Quiet (say line) := quiet_put (line ++ "\n")

@[simp] theorem result_say (line : String) : result (say line) = .ok () := rfl

theorem quiet_sayAll (lines : List (Except Fault String)) : Quiet (sayAll lines) := by
  induction lines with
  | nil => exact quiet_pure ()
  | cons line rest ih =>
    cases line with
    | ok text => exact (quiet_say text).bind fun _ => ih
    | error f => exact quiet_throw (.fault f)

/-- Lines that can all be written are. -/
theorem result_sayAll_map {lines : List α} {text : α → String} :
    result (sayAll (lines.map fun a => .ok (text a))) = .ok () := by
  induction lines with
  | nil => rfl
  | cons a rest ih =>
    have later (_ : Unit) := quiet_sayAll (rest.map fun a => .ok (text a))
    exact (result_bind (quiet_say (text a)) later).trans ih

theorem quiet_perform {x : Noting Mishap α} (steady : x.Steady) : Quiet (perform x) :=
  ⟨fun s => steady.same s.notices, fun _ => rfl⟩

@[simp] theorem result_perform (x : Noting Mishap α) : result (perform x) = x.result := rfl

/-- On every shell a quiet computation comes to its result with the files as they are. -/
theorem Quiet.outcome_eq {x : Console α} (quiet : Quiet x) (s : Shell) :
    ∃ t, x.outcome s = (x.result, t) ∧ t.files = s.files :=
  ⟨(x.outcome s).2, Prod.ext (quiet.same s) rfl, quiet.files s⟩

theorem Quiet.of_outcome {x : Console α} (quiet : Quiet x) {s t : Shell} {r : Except Mishap α}
    (h : x.outcome s = (r, t)) : x.result = r ∧ t.files = s.files := by
  have same := quiet.same s
  have files := quiet.files s
  rw [h] at same files
  exact ⟨same.symm, files⟩

end Storyworld.CommandLine.Console
