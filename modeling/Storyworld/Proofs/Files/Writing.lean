import Storyworld.Files.Basic
import Storyworld.Proofs.Results

/-!
Reading and writing of single files. A write changes the text at one place and no folder, so paths
lead to where they led, and what is read afterwards is the text that was written or what was there
before.
-/

namespace Storyworld.Files

/-- The text to which a path leads, as it stands in the file. -/
def content? (f : Files) (p : Path) : Option String :=
  (f.locate p).toOption.bind f.textAt?

variable {f g : Files} {p q : Path} {l : Location} {s t : String}

theorem plainLines_of_no_return {cs : List Char} (plain : '\r' ∉ cs) : plainLines cs = cs := by
  induction cs with
  | nil => rfl
  | cons c cs ih =>
    simp only [List.mem_cons, not_or] at plain
    have later := ih plain.2
    rw [plainLines, later]
    · rintro rest rfl
      exact absurd rfl plain.1
    · rintro rfl
      exact absurd rfl plain.1

theorem step_eq_ok {name : String} {k : Location} :
    f.step l name = .ok k ↔ f.isFolder l = true ∧ ¬ 255 < name.utf8ByteSize ∧
      k = if name = ".." then l.dropLast else l ++ [name] := by
  unfold step
  cases f.isFolder l with
  | false =>
    rw [if_neg Bool.false_ne_true]
    split <;> simp
  | true =>
    by_cases long : 255 < name.utf8ByteSize
    · simp [long]
    · simp [long, @eq_comm _ k]

theorem locate_eq_ok : f.locate p = .ok l ↔
    '\x00' ∉ p.text.toList ∧ p.text.utf8ByteSize < pathLimit ∧
      p.parts.foldlM f.step (if p.absolute then [] else f.here) = .ok l := by
  unfold locate
  split
  · rename_i bad
    exact iff_of_false nofun fun h => h.1 (by simpa using bad)
  · rename_i good
    split
    · rename_i long
      exact iff_of_false nofun fun h => absurd h.2.1 (by omega)
    · rename_i short
      rw [mapError_eq_ok]
      exact ⟨fun h => ⟨by simpa using good, by omega, h⟩, fun h => h.2.2⟩

/-- Texts do not matter to where a path leads. -/
theorem locate_putText (k : Location) : (f.putText k s).locate p = .ok l ↔ f.locate p = .ok l := by
  have walk : ∀ (names : List String) (start : Location),
      names.foldlM (f.putText k s).step start = .ok l ↔ names.foldlM f.step start = .ok l := by
    intro names
    induction names with
    | nil => exact fun _ => Iff.rfl
    | cons name rest ih =>
      intro start
      simp only [List.foldlM_cons, bind_eq_ok, ih, step_eq_ok]
      rfl
  rw [locate_eq_ok, locate_eq_ok]
  exact and_congr_right fun _ => and_congr_right fun _ => walk _ _

theorem textAt?_putText (k : Location) :
    (f.putText k s).textAt? l = if l = k then some s else f.textAt? l := by
  unfold textAt? putText
  by_cases same : l = k
  · simp [same]
  · have other : (l == k) = false := by simpa using same
    rw [List.lookup_cons, other, if_neg same]
    induction f.texts with
    | nil => rfl
    | cons e rest ih =>
      obtain ⟨k', u⟩ := e
      by_cases here : k' = k
      · have apart : (l == k') = false := by simpa [here] using same
        simpa [here, List.lookup_cons, apart, other] using ih
      · simp only [ne_eq, decide_not] at ih
        simp [here, List.lookup_cons, ih]

theorem write_eq_ok : f.write p s = .ok g ↔ ∃ l, f.locate p = .ok l ∧ f.isFolder l = false ∧
    f.isFolder l.dropLast = true ∧ f.putText l s = g := by
  unfold write
  rw [bind_eq_ok]
  refine exists_congr fun l => and_congr_right fun _ => ?_
  cases f.isFolder l with
  | true => exact iff_of_false nofun nofun
  | false =>
    cases f.isFolder l.dropLast with
    | true => exact ⟨fun h => by cases h; exact ⟨rfl, rfl, rfl⟩, fun h => congrArg Except.ok h.2.2⟩
    | false => exact iff_of_false nofun nofun

theorem read_eq_ok : f.read p = .ok t ↔ ∃ l s, f.locate p = .ok l ∧ f.isFolder l = false ∧
    f.textAt? l = some s ∧ String.ofList (plainLines s.toList) = t := by
  unfold read
  rw [bind_eq_ok]
  constructor
  · rintro ⟨l, located, read⟩
    cases folder : f.isFolder l with
    | true =>
      rw [if_pos folder] at read
      cases read
    | false =>
      rw [if_neg (by simp [folder])] at read
      split at read
      · rename_i s here
        cases read
        exact ⟨l, s, located, folder, here, rfl⟩
      · cases read
  · rintro ⟨l, s, located, folder, here, rfl⟩
    refine ⟨l, located, ?_⟩
    rw [if_neg (by simp [folder]), here]
    rfl

/-- A text without returns is read as it is. -/
theorem read_of_no_return {l : Location} (located : f.locate p = .ok l)
    (file : f.isFolder l = false) (here : f.textAt? l = some s) (plain : '\r' ∉ s.toList) :
    f.read p = .ok s := by
  refine read_eq_ok.2 ⟨l, s, located, file, here, ?_⟩
  rw [plainLines_of_no_return plain, String.ofList_toList]

/-- The file that was written holds the text as it is. -/
theorem content?_of_write (wrote : f.write p s = .ok g) : g.content? p = some s := by
  obtain ⟨l, located, -, -, rfl⟩ := write_eq_ok.1 wrote
  have there := (locate_putText (s := s) l).2 located
  simp [content?, there, Except.toOption, textAt?_putText]

/-- What can be written after another write is what could be written before it. -/
theorem writable_of_write (first : f.write q t = .ok g) :
    (∃ h, g.write p s = .ok h) ↔ ∃ h, f.write p s = .ok h := by
  obtain ⟨l, -, -, -, rfl⟩ := write_eq_ok.1 first
  constructor
  · rintro ⟨h, second⟩
    obtain ⟨k, located, text, folder, -⟩ := write_eq_ok.1 second
    exact ⟨_, write_eq_ok.2 ⟨k, (locate_putText l).1 located, text, folder, rfl⟩⟩
  · rintro ⟨h, second⟩
    obtain ⟨k, located, text, folder, -⟩ := write_eq_ok.1 second
    exact ⟨_, write_eq_ok.2 ⟨k, (locate_putText l).2 located, text, folder, rfl⟩⟩

theorem read_putText (plain : '\r' ∉ s.toList) (read : (f.putText l s).read p = .ok t) :
    (f.locate p = .ok l ∧ t = s) ∨ (f.locate p ≠ .ok l ∧ f.read p = .ok t) := by
  obtain ⟨k, u, located, folder, here, rfl⟩ := read_eq_ok.1 read
  have before := (locate_putText l).1 located
  rw [textAt?_putText] at here
  split at here
  · rename_i same
    cases here
    rw [plainLines_of_no_return plain, String.ofList_toList]
    exact .inl ⟨same ▸ before, rfl⟩
  · rename_i other
    refine .inr ⟨fun there => ?_, read_eq_ok.2 ⟨k, u, before, folder, here, rfl⟩⟩
    cases before.symm.trans there
    exact other rfl

/-- What is read after a write is the text that was written or was there before. -/
theorem read_of_write (wrote : f.write p s = .ok g) (plain : '\r' ∉ s.toList)
    (read : g.read q = .ok t) : t = s ∨ f.read q = .ok t := by
  obtain ⟨l, -, -, -, rfl⟩ := write_eq_ok.1 wrote
  obtain ⟨-, same⟩ | ⟨-, before⟩ := read_putText plain read
  · exact .inl same
  · exact .inr before

/-- The file that was written is read as the text that was written. -/
theorem read_written (wrote : f.write p s = .ok g) (plain : '\r' ∉ s.toList) :
    g.read p = .ok t ↔ t = s := by
  obtain ⟨l, located, text, -, rfl⟩ := write_eq_ok.1 wrote
  constructor
  · intro read
    obtain ⟨-, same⟩ | ⟨other, -⟩ := read_putText plain read
    · exact same
    · exact absurd located other
  · rintro rfl
    refine read_of_no_return ((locate_putText l).2 located) text ?_ plain
    rw [textAt?_putText, if_pos rfl]

end Storyworld.Files
