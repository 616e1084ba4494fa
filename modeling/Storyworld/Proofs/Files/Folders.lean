import Storyworld.Proofs.Files.Writing

/-!
Folders that are made for a file. A new folder leads paths nowhere else than before, so a path whose
folders were made leads to a folder, and there is nothing left to make.
-/

namespace Storyworld.Files

variable {f g : Files} {p q : Path} {l : Location}

theorem isFolderAt_iff : f.isFolderAt p = true ↔ ∃ l, f.locate p = .ok l ∧ f.isFolder l = true := by
  unfold isFolderAt
  cases f.locate p with
  | ok l => simp
  | error e => simp

/-- The files with one more folder. -/
def withFolder (f : Files) (l : Location) : Files :=
  { f with folders := l :: f.folders }

theorem isFolder_withFolder {k : Location} (h : f.isFolder k = true) :
    (f.withFolder l).isFolder k = true := by
  have old : k ∈ f.folders := by simpa [isFolder] using h
  simp [isFolder, withFolder, old]

theorem locate_withFolder {k : Location} (h : f.locate p = .ok k) :
    (f.withFolder l).locate p = .ok k := by
  have walk : ∀ (names : List String) (start : Location), names.foldlM f.step start = .ok k →
      names.foldlM (f.withFolder l).step start = .ok k := by
    intro names
    induction names with
    | nil => exact fun _ h => h
    | cons name rest ih =>
      intro start h
      rw [List.foldlM_cons] at h ⊢
      obtain ⟨next, first, later⟩ := bind_eq_ok.1 h
      obtain ⟨folder, short, here⟩ := step_eq_ok.1 first
      have again := step_eq_ok.2 ⟨isFolder_withFolder (l := l) folder, short, here⟩
      exact bind_eq_ok.2 ⟨next, again, ih next later⟩
  obtain ⟨plain, short, way⟩ := locate_eq_ok.1 h
  exact locate_eq_ok.2 ⟨plain, short, walk _ _ way⟩

theorem makeFolder_eq_ok : f.makeFolder p = .ok g ↔ ∃ l, f.locate p = .ok l ∧
    f.isFolder l = false ∧ f.textAt? l = none ∧ f.withFolder l = g := by
  unfold makeFolder
  rw [bind_eq_ok]
  refine exists_congr fun l => and_congr_right fun _ => ?_
  cases f.isFolder l with
  | true => exact iff_of_false nofun nofun
  | false =>
    cases f.textAt? l with
    | some s => exact iff_of_false nofun nofun
    | none => exact ⟨fun h => by cases h; exact ⟨rfl, rfl, rfl⟩, fun h => congrArg Except.ok h.2.2⟩

theorem makeFolder_isFolderAt (h : f.makeFolder p = .ok g) : g.isFolderAt p = true := by
  obtain ⟨l, located, -, -, rfl⟩ := makeFolder_eq_ok.1 h
  refine isFolderAt_iff.2 ⟨l, locate_withFolder located, ?_⟩
  simp [isFolder, withFolder]

theorem once_isFolderAt (h : makeFolders.once p f = (g, .ok ())) : g.isFolderAt p = true := by
  unfold makeFolders.once at h
  split at h
  · rename_i made
    cases h
    exact makeFolder_isFolderAt made
  · obtain ⟨rfl, there⟩ := Prod.mk.inj h
    split at there
    · assumption
    · cases there

/-- Where folders were made for a path, it leads to a folder. -/
theorem makeFolders_isFolderAt (h : f.makeFolders p = (g, .ok ())) : g.isFolderAt p = true := by
  have made : ∀ (depth : Nat) (p : Path) (f : Files), makeFolders.go p depth f = (g, .ok ()) →
      g.isFolderAt p = true := by
    intro depth
    induction depth with
    | zero => exact fun p f h => once_isFolderAt h
    | succ depth ih =>
      intro p f h
      unfold makeFolders.go at h
      split at h
      · split at h
        · split at h
          · exact once_isFolderAt h
          · rename_i above stuck
            exact absurd h (stuck g ())
        · cases h
      · exact once_isFolderAt h
  exact made _ p f h

/-- To make folders changes no text, also where it fails. -/
theorem makeFolders_textAt? (f : Files) (p : Path) (l : Location) :
    (f.makeFolders p).1.textAt? l = f.textAt? l := by
  have one : ∀ (p : Path) (f : Files), (makeFolders.once p f).1.textAt? l = f.textAt? l := by
    intro p f
    unfold makeFolders.once
    cases made : f.makeFolder p with
    | error e => rfl
    | ok g =>
      obtain ⟨k, -, -, -, rfl⟩ := makeFolder_eq_ok.1 made
      rfl
  have all : ∀ (depth : Nat) (p : Path) (f : Files),
      (makeFolders.go p depth f).1.textAt? l = f.textAt? l := by
    intro depth
    induction depth with
    | zero => exact one
    | succ depth ih =>
      intro p f
      have first := one p f
      have above := ih p.parent (makeFolders.once p f).1
      unfold makeFolders.go
      split
      · rename_i g e tried
        rw [tried] at first above
        split
        · split
          · rename_i made
            rw [made] at above
            exact (one p _).trans (above.trans first)
          · exact above.trans first
        · exact first
      · exact first
  exact all _ p f

/-- Where there is a folder already, none is made. -/
theorem makeFolders_there (there : f.isFolderAt p = true) : f.makeFolders p = (f, .ok ()) := by
  have once : makeFolders.once p f = (f, .ok ()) := by
    obtain ⟨l, located, folder⟩ := isFolderAt_iff.1 there
    have taken : f.makeFolder p = .error ⟨.taken, p.text⟩ := by
      unfold makeFolder
      rw [located]
      simp only [bind, Except.bind, folder, Bool.true_or, if_true]
      rfl
    simp [makeFolders.once, taken, there]
  unfold makeFolders
  cases p.parts.length with
  | zero => exact once
  | succ depth =>
    unfold makeFolders.go
    rw [once]

theorem isFolderAt_of_write {s : String} (wrote : f.write q s = .ok g) :
    g.isFolderAt p = f.isFolderAt p := by
  obtain ⟨l, -, -, -, rfl⟩ := write_eq_ok.1 wrote
  rw [Bool.eq_iff_iff, isFolderAt_iff, isFolderAt_iff]
  exact exists_congr fun k => and_congr_left fun _ => locate_putText l

end Storyworld.Files
