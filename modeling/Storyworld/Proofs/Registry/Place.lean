import Storyworld.Proofs.Registry.Saving

/-!
Where a saved document ends up. Its id is read as a path: an id without separators is the name of a
file in the folder, but one that leads up or starts at the root leaves the folder.
-/

namespace Storyworld

namespace Path

theorem pieces_of_notMem {x : Char} {cs : List Char} (absent : x ∉ cs) : pieces x cs = [cs] := by
  induction cs with
  | nil => rfl
  | cons c cs ih =>
    simp only [List.mem_cons, not_or] at absent
    simp [pieces, Ne.symm absent.1, ih absent.2]

theorem notMem_of_mem_pieces {x : Char} {cs p : List Char} (h : p ∈ pieces x cs) : x ∉ p := by
  induction cs generalizing p with
  | nil =>
    obtain rfl := List.mem_singleton.1 h
    exact List.not_mem_nil
  | cons c cs ih =>
    unfold pieces at h
    split at h
    · obtain rfl | later := List.mem_cons.1 h
      · exact List.not_mem_nil
      · exact ih later
    · rename_i other
      split at h
      · obtain rfl := List.mem_singleton.1 h
        simpa using Ne.symm other
      · rename_i q qs split
        obtain rfl | later := List.mem_cons.1 h
        · simp only [List.mem_cons, not_or]
          exact ⟨Ne.symm other, ih (by simp [split])⟩
        · exact ih (by simp [split, later])

theorem separator_notMem_part {s part : String} (h : part ∈ (ofText s).parts) :
    '/' ∉ part.toList := by
  obtain ⟨listed, -⟩ := List.mem_filter.1 h
  obtain ⟨cs, piece, rfl⟩ := List.mem_map.1 listed
  rw [String.toList_ofList]
  exact notMem_of_mem_pieces piece

theorem ofText_parts_of_notMem {s : String} (absent : '/' ∉ s.toList) (named : s ≠ "" ∧ s ≠ ".") :
    (ofText s).parts = [s] := by
  simp [ofText, pieces_of_notMem absent, named]

theorem ofText_absolute {s : String} : (ofText s).absolute = true ↔ s.toList.head? = some '/' := by
  simp [ofText]

/-- The text of a path goes on from that of the folder from which it is seen. -/
theorem text_under (folder : Path) {p : Path} (relative : p.absolute = false) :
    folder.text = "." ∨ ∃ rest, (folder.under p).text = folder.text ++ rest := by
  obtain ⟨absolute, names⟩ := folder
  simp only [under, relative, Bool.false_eq_true, if_false]
  by_cases last : p.parts = []
  · exact .inr ⟨"", by simp [last]⟩
  by_cases top : names = []
  · cases absolute with
    | false => exact .inl (by simp [text, top])
    | true => exact .inr ⟨String.intercalate "/" p.parts, by simp [text, top]⟩
  · refine .inr ⟨"/" ++ String.intercalate "/" p.parts, ?_⟩
    simp only [text, String.intercalate_append_of_ne_nil top last]
    cases absolute with
    | false => simp [top, String.append_assoc]
    | true => simp [String.append_assoc]

end Path

namespace Files

variable {f : Files} {folder p : Path} {l : Location}

/-- A way on which nothing leads up ends below its start. -/
theorem steps_down {names : List String} {start : Location} (down : ".." ∉ names)
    (h : names.foldlM f.step start = .ok l) : l = start ++ names := by
  induction names generalizing start with
  | nil =>
    cases h
    simp
  | cons name rest ih =>
    simp only [List.mem_cons, not_or] at down
    rw [List.foldlM_cons] at h
    obtain ⟨next, first, later⟩ := bind_eq_ok.1 h
    obtain ⟨-, -, rfl⟩ := step_eq_ok.1 first
    rw [if_neg (Ne.symm down.1)] at later
    simpa using ih down.2 later

/-- A path that is seen from a folder and nowhere leads up ends below that folder. -/
theorem locate_under (relative : p.absolute = false) (down : ".." ∉ p.parts)
    (h : f.locate (folder.under p) = .ok l) :
    ∃ d, f.locate folder = .ok d ∧ l = d ++ p.parts := by
  obtain ⟨plain, short, walk⟩ := locate_eq_ok.1 h
  have way : (folder.parts ++ p.parts).foldlM f.step
      (if folder.absolute then [] else f.here) = .ok l := by
    simpa [Path.under, relative] using walk
  rw [List.foldlM_append] at way
  obtain ⟨d, there, further⟩ := bind_eq_ok.1 way
  -- the path of the folder has to be short enough as well, and it is no longer than the whole
  refine ⟨d, locate_eq_ok.2 ⟨?_, ?_, there⟩, steps_down down further⟩
  · obtain here | ⟨rest, whole⟩ := Path.text_under folder relative
    · simp [here]
    · rw [whole, String.toList_append, List.mem_append, not_or] at plain
      exact plain.1
  · obtain here | ⟨rest, whole⟩ := Path.text_under folder relative
    · rw [here]
      decide
    · rw [whole, String.utf8ByteSize_append] at short
      omega

end Files

namespace Registry

variable {r : Registry} {files after : Files} {id text : String} {folder : Path} {saved : Saved}

theorem fileName_absolute : (Path.ofText (id ++ ".json")).absolute = true ↔
    id.toList.head? = some '/' := by
  rw [Path.ofText_absolute, String.toList_append]
  cases id.toList with
  | nil => decide
  | cons c cs => simp

theorem fileName_parts (absent : '/' ∉ id.toList) :
    (Path.ofText (id ++ ".json")).parts = [id ++ ".json"] := by
  refine Path.ofText_parts_of_notMem ?_ ⟨?_, ?_⟩
  · simpa using absent
  · intro h
    simpa using congrArg (·.toList.length) h
  · intro h
    simpa using congrArg (·.toList.length) h

/-- A document is saved under its id as a name exactly if the id holds no separator. -/
theorem placeOf_eq_child : placeOf folder id = folder.child (id ++ ".json") ↔ '/' ∉ id.toList := by
  unfold placeOf Path.under Path.child
  constructor
  · intro same inside
    -- the name would be a part of a path, and no part holds a separator
    have listed : id ++ ".json" ∈ (Path.ofText (id ++ ".json")).parts := by
      split at same
      · rw [same]
        simp
      · have parts := List.append_cancel_left (congrArg Path.parts same)
        simp [parts]
    exact Path.separator_notMem_part listed (by simp [inside])
  · intro absent
    have relative : ¬ (Path.ofText (id ++ ".json")).absolute = true := by
      rw [fileName_absolute]
      exact fun first => absent (List.mem_of_mem_head? first)
    rw [if_neg relative, fileName_parts absent]

/-- A document that cannot be saved changes no text, though folders may have been made for it. -/
theorem textAt?_of_save_error {m : Mishap}
    (h : r.save files id text folder = (after, .error m)) (k : Location) :
    after.textAt? k = files.textAt? k := by
  have made := Files.makeFolders_textAt? files (placeOf folder id).parent k
  unfold save at h
  split at h
  · cases h
    rfl
  · dsimp only at h
    split at h
    · rename_i stopped
      cases h
      simpa [placeOf, stopped] using made
    · rename_i ready
      split at h
      · cases h
        simpa [placeOf, ready] using made
      · cases h

/-- What is saved is one text at the end of its path, and no other text changes. The path is the id
as a single name in the folder exactly if the id holds no separator, and then the file is in the
folder. With separators it is below the folder as long as the id neither starts at the root nor
leads up; an id that starts at the root leaves the folder out of account. -/
theorem saved_in_folder_without_separator
    (h : r.save files id text folder = (after, .ok saved)) :
    (saved.path = folder.child (id ++ ".json") ↔ '/' ∉ id.toList) ∧
      (id.toList.head? = some '/' → saved.path = .ofText (id ++ ".json")) ∧
      ∃ l, after.locate saved.path = .ok l ∧ after.textAt? l = some saved.text ∧
        (∀ k, k ≠ l → after.textAt? k = files.textAt? k) ∧
        ('/' ∉ id.toList → ∃ d, after.locate folder = .ok d ∧ l = d ++ [id ++ ".json"]) ∧
        (id.toList.head? ≠ some '/' → ".." ∉ (Path.ofText (id ++ ".json")).parts →
          ∃ d, after.locate folder = .ok d ∧ l = d ++ (Path.ofText (id ++ ".json")).parts) := by
  obtain ⟨v, sc, made, -, folders, wrote, rfl⟩ := save_eq_ok.1 h
  obtain ⟨l, located, -, -, rfl⟩ := Files.write_eq_ok.1 wrote
  have there := (Files.locate_putText (s := Json.writeDocument v) l).2 located
  have below : id.toList.head? ≠ some '/' → ".." ∉ (Path.ofText (id ++ ".json")).parts →
      ∃ d, (made.putText l (Json.writeDocument v)).locate folder = .ok d ∧
        l = d ++ (Path.ofText (id ++ ".json")).parts := by
    intro relative down
    have rooted := mt fileName_absolute.1 relative
    exact Files.locate_under (by simpa using rooted) down there
  refine ⟨placeOf_eq_child, fun rooted => ?_, l, there, ?_, fun k other => ?_, fun absent => ?_,
    below⟩
  · exact if_pos (fileName_absolute.2 rooted)
  · rw [Files.textAt?_putText, if_pos rfl]
  · rw [Files.textAt?_putText, if_neg other]
    simpa [folders] using Files.makeFolders_textAt? files (placeOf folder id).parent k
  · have parts := fileName_parts absent
    rw [parts] at below
    refine below (fun first => absent (List.mem_of_mem_head? first)) fun up => ?_
    have last := congrArg (·.toList.getLast?) (List.mem_singleton.1 up)
    simp at last

/-- The fig is saved in a folder that is made for it. -/
theorem saved_in_folder_without_separator_fig :
    ∃ after saved, empty.save .empty "fig" figText (.ofText "trees") = (after, .ok saved) ∧
      saved.path = (Path.ofText "trees").child "fig.json" ∧
      ∃ l, after.locate saved.path = .ok l ∧ after.textAt? l = some saved.text ∧
        (∀ k, k ≠ l → after.textAt? k = none) ∧
        ∃ d, after.locate (.ofText "trees") = .ok d ∧ l = d ++ ["fig.json"] := by
  have checked : readChecked "fig" figText = .ok (figDocument, fig) :=
    readChecked_eq_ok.2 ⟨readDocument_figText, read_figDocument, rfl⟩
  obtain ⟨made, folders, after, wrote⟩ : ∃ made,
      Files.empty.makeFolders (placeOf (.ofText "trees") "fig").parent = (made, .ok ()) ∧
      ∃ after, made.write (placeOf (.ofText "trees") "fig")
        (Json.writeDocument figDocument) = .ok after := by
    refine ⟨_, rfl, _, Files.write_eq_ok.2 ⟨["games", "table", "trees", "fig.json"],
      ?_, ?_, ?_, rfl⟩⟩ <;> rfl
  have kept : empty.save .empty "fig" figText (.ofText "trees") = (after, .ok _) :=
    save_eq_ok.2 ⟨_, _, made, checked, folders, wrote, rfl⟩
  obtain ⟨path, -, l, located, written, others, inside, -⟩ :=
    saved_in_folder_without_separator kept
  have absent : '/' ∉ "fig".toList := by decide
  exact ⟨after, _, kept, path.2 absent, l, located, written, others, inside absent⟩

/-- A folder for documents, and a text beside it. -/
def yard : Files where
  here := ["games", "table"]
  folders := [[], ["games"], ["games", "table"], ["games", "table", "trees"]]
  texts := [(["games", "table", "stray.json"], "kept")]

/-- A document whose id leads out of the folder in which it is saved. -/
def strayText : String :=
  "\x7b\"id\": \"../stray\", \"title\": \"Stray\", \"actions\": \x7b\x7d, " ++
    "\"initial\": \x7b\"situation\": \"s\"\x7d, \"situations\": \x7b\x7d\x7d"

def strayDocument : Value :=
  .mapping [("id", .text "../stray"), ("title", .text "Stray"), ("actions", .mapping []),
    ("initial", .mapping [("situation", .text "s")]), ("situations", .mapping [])]

def stray : Scenario := { fig with id := "../stray", title := "Stray" }

/-- The document takes the place of the text beside the folder. -/
theorem saved_beside_folder :
    ∃ after saved, empty.save yard "../stray" strayText (.ofText "trees") = (after, .ok saved) ∧
      saved.path.text = "trees/../stray.json" ∧
      yard.locate (.ofText "trees") = .ok ["games", "table", "trees"] ∧
      yard.textAt? ["games", "table", "stray.json"] = some "kept" ∧
      after.textAt? ["games", "table", "stray.json"] = some saved.text ∧ saved.text ≠ "kept" := by
  have read : Json.readDocument strayText = .ok strayDocument := by cbv
  have fits : Scenario.read strayDocument = .fits stray := by cbv
  have checked : readChecked "../stray" strayText = .ok (strayDocument, stray) :=
    readChecked_eq_ok.2 ⟨read, fits, rfl⟩
  have folders : yard.makeFolders (placeOf (.ofText "trees") "../stray").parent =
      (yard, .ok ()) := Files.makeFolders_there rfl
  have wrote : yard.write (placeOf (.ofText "trees") "../stray")
      (Json.writeDocument strayDocument) =
        .ok (yard.putText ["games", "table", "stray.json"] (Json.writeDocument strayDocument)) :=
    Files.write_eq_ok.2 ⟨_, rfl, rfl, rfl, rfl⟩
  refine ⟨_, _, save_eq_ok.2 ⟨_, _, yard, checked, folders, wrote, rfl⟩, rfl, rfl, rfl, ?_, ?_⟩
  · rw [Files.textAt?_putText, if_pos rfl]
  · intro same
    have first : (Json.writeDocument strayDocument).toList.head? = some '\x7b' := by cbv
    have kept := congrArg (·.toList.head?) same
    exact absurd (first.symm.trans kept) (by decide)

end Registry

end Storyworld
