import Mathlib
import Storyworld.Proofs.Check.Document
import Storyworld.Proofs.Files.Folders
import Storyworld.Proofs.Json.Document
import Storyworld.Proofs.State.Whole

/-!
Documents that are saved in a registry. The file that is written holds the very value that was
checked, so it is loaded as the scenario that was registered, and to save it again writes the same
text at the same place.
-/

namespace Storyworld

open Schema

theorem Scenario.read_id {v : Value} {sc : Scenario} (h : Scenario.read v = .fits sc) :
    ∃ doc, v = .mapping doc ∧ lookupLast "id" doc = some (.text sc.id) := by
  obtain ⟨doc, rfl, -⟩ := model_eq_fits.1 h
  refine ⟨doc, rfl, ?_⟩
  simp only [Scenario.read, model, Checked.seq_eq_fits, Checked.map_eq_fits] at h
  obtain ⟨_, _, ⟨_, _, ⟨_, _, ⟨_, _, ⟨_, _, ⟨_, _, ⟨_, _, ⟨_, _, ⟨_, _, ⟨_, _, ⟨_, -, rfl⟩,
    id, rfl⟩, -, rfl⟩, -, rfl⟩, -, rfl⟩, -, rfl⟩, -, rfl⟩, -, rfl⟩, -, rfl⟩,
    -, rfl⟩, -, rfl⟩ := h
  obtain ⟨n, w, found, fits⟩ := required_eq_fits.1 id
  cases text_eq_fits.1 fits
  exact fieldUnder_only found

namespace Registry

variable {r : Registry} {files after : Files} {id text : String} {folder : Path} {v : Value}
  {sc : Scenario} {saved : Saved}

theorem fileScenario_eq_ok {p : Path} : fileScenario files p = .ok sc ↔
    ∃ text, files.read p = .ok text ∧ readScenario text = .ok sc := by
  rw [fileScenario, bind_eq_ok]
  simp only [mapError_eq_ok]

theorem readNamed_eq_ok : readNamed id text = .ok v ↔
    Json.readDocument text = .ok v ∧
      ∃ doc, v = .mapping doc ∧ lookupLast "id" doc = some (.text id) := by
  unfold readNamed
  rw [bind_eq_ok]
  simp only [mapError_eq_ok]
  constructor
  · rintro ⟨w, read, named⟩
    split at named
    · rename_i doc
      split at named
      · rename_i found here
        split at named
        · rename_i same
          cases named
          cases known : lookupLast "id" doc with
          | none => simp [known] at here
          | some u =>
            have value : u = .text found := by simpa [known] using here
            exact ⟨read, doc, rfl, by rw [known, value, same]⟩
        · cases named
      · cases named
    · cases named
  · rintro ⟨read, doc, rfl, here⟩
    exact ⟨_, read, by simp [here]; rfl⟩

/-- A document passes if it is a scenario under the id that is asked for. -/
theorem readChecked_eq_ok : readChecked id text = .ok (v, sc) ↔
    Json.readDocument text = .ok v ∧ Scenario.read v = .fits sc ∧ sc.id = id := by
  unfold readChecked
  simp only [bind_eq_ok, mapError_eq_ok, Checked.toExcept_eq_ok, readNamed_eq_ok]
  constructor
  · rintro ⟨w, ⟨read, doc, rfl, here⟩, sc', fits, same⟩
    cases same
    obtain ⟨doc', same, id'⟩ := Scenario.read_id fits
    cases same
    cases here.symm.trans id'
    exact ⟨read, fits, rfl⟩
  · rintro ⟨read, fits, rfl⟩
    exact ⟨v, ⟨read, Scenario.read_id fits⟩, sc, fits, rfl⟩

/-- Where a document is saved. -/
def placeOf (folder : Path) (id : String) : Path :=
  folder.under (.ofText (id ++ ".json"))

theorem save_eq_ok : r.save files id text folder = (after, .ok saved) ↔
    ∃ v sc made, readChecked id text = .ok (v, sc) ∧
      files.makeFolders (placeOf folder id).parent = (made, .ok ()) ∧
      made.write (placeOf folder id) (Json.writeDocument v) = .ok after ∧
      ⟨r.register sc, placeOf folder id, Json.writeDocument v⟩ = saved := by
  unfold save placeOf
  dsimp only
  generalize folder.under (.ofText (id ++ ".json")) = p
  constructor
  · intro h
    split at h
    · cases h
    · rename_i v sc checked
      split at h
      · cases h
      · rename_i made _ folders
        split at h
        · cases h
        · rename_i wrote
          cases h
          exact ⟨v, sc, made, checked, folders, wrote, rfl⟩
  · rintro ⟨v, sc, made, checked, folders, wrote, rfl⟩
    rw [checked]
    dsimp only
    rw [folders]
    dsimp only
    rw [wrote]

/-- A document without floating-point numbers that was saved is read from its file as the value that
was checked. Its file is loaded as the scenario that was registered, under the same id, and to save
the text of the file again writes the same text at the same place. -/
theorem saved_document_reloads (document : Json.readDocument text = .ok v) (whole : v.Integral)
    (h : r.save files id text folder = (after, .ok saved)) :
    after.read saved.path = .ok saved.text ∧ Json.readDocument saved.text = .ok v ∧
      ∃ sc, sc.id = id ∧ saved.registry = r.register sc ∧
        empty.loadFile after saved.path = .ok (empty.register sc, sc) ∧
        (empty.register sc).get id = .ok sc ∧
        ∀ r' : Registry, ∃ later again,
          r'.save after id saved.text folder = (later, .ok again) ∧ again.path = saved.path ∧
            again.text = saved.text ∧ again.registry = r'.register sc ∧
            later.read saved.path = .ok saved.text := by
  obtain ⟨w, sc, made, checked, folders, wrote, rfl⟩ := save_eq_ok.1 h
  obtain ⟨read, fits, rfl⟩ := readChecked_eq_ok.1 checked
  cases document.symm.trans read
  have again := Json.readDocument_again whole document
  have stored := (Files.read_written wrote (Json.writeDocument_no_return whole)).2 rfl
  have loaded : readScenario (Json.writeDocument v) = .ok sc :=
    bind_eq_ok.2 ⟨v, mapError_eq_ok.2 again, mapError_eq_ok.2 (Checked.toExcept_eq_ok.2 fits)⟩
  refine ⟨stored, again, sc, rfl, rfl, ?_, ?_, fun r' => ?_⟩
  · exact bind_eq_ok.2 ⟨sc, fileScenario_eq_ok.2 ⟨_, stored, loaded⟩, rfl⟩
  · simp [get, register, empty, putEntry, lookupLast]
  · have there : after.isFolderAt (placeOf folder sc.id).parent = true := by
      rw [Files.isFolderAt_of_write wrote]
      exact Files.makeFolders_isFolderAt folders
    obtain ⟨later, rewrote⟩ := (Files.writable_of_write wrote).2 ⟨after, wrote⟩
    have checked' := readChecked_eq_ok.2 ⟨again, fits, rfl⟩
    refine ⟨later, _, save_eq_ok.2 ⟨v, sc, after, checked', Files.makeFolders_there there, rewrote,
      rfl⟩, rfl, rfl, rfl, ?_⟩
    exact (Files.read_written rewrote (Json.writeDocument_no_return whole)).2 rfl

/-- A document with a key that is written twice, a letter that is written as its code, and fields
that no scenario has. -/
def figText : String :=
  "\x7b\"id\": \"old\", \"title\": \"\\u00e9\\n\", \"actions\": \x7b\x7d,\n" ++
    "\"tags\": [[], -0, \x7b\x7d], \"initial\": \x7b\"situation\": \"s\"\x7d," ++
    "\"situations\": \x7b\x7d, \"id\": \"fig\"\x7d"

def figDocument : Value :=
  .mapping [("id", .text "fig"), ("title", .text "é\n"), ("actions", .mapping []),
    ("tags", .list [.list [], .int 0, .mapping []]),
    ("initial", .mapping [("situation", .text "s")]), ("situations", .mapping [])]

def fig : Scenario where
  version := 1
  id := "fig"
  title := "é\n"
  description := ""
  language := .en
  theme := none
  actions := []
  opening := ⟨"s", [], []⟩
  tracks := []
  situations := []
  hints := none

theorem readDocument_figText : Json.readDocument figText = .ok figDocument := by
  cbv

theorem read_figDocument : Scenario.read figDocument = .fits fig := by
  cbv

/-- The fig is saved in a folder of a folder that are both made for it. -/
theorem saved_document_reloads_fig :
    ∃ after saved, Json.readDocument figText = .ok figDocument ∧ figDocument.Integral ∧
      empty.save .empty "fig" figText (.ofText "new/trees") = (after, .ok saved) ∧
      saved.path.text = "new/trees/fig.json" ∧ saved.registry.scenarios = [("fig", fig)] ∧
      after.read saved.path = .ok saved.text ∧ Json.readDocument saved.text = .ok figDocument ∧
      ∃ sc, sc.id = "fig" ∧ saved.registry = empty.register sc ∧
        empty.loadFile after saved.path = .ok (empty.register sc, sc) ∧
        (empty.register sc).get "fig" = .ok sc ∧
        ∀ r' : Registry, ∃ later again,
          r'.save after "fig" saved.text (.ofText "new/trees") = (later, .ok again) ∧
            again.path = saved.path ∧ again.text = saved.text ∧
            again.registry = r'.register sc ∧ later.read saved.path = .ok saved.text := by
  have whole : figDocument.Integral := by simp [figDocument]
  have checked : readChecked "fig" figText = .ok (figDocument, fig) :=
    readChecked_eq_ok.2 ⟨readDocument_figText, read_figDocument, rfl⟩
  obtain ⟨made, folders, after, wrote⟩ : ∃ made,
      Files.empty.makeFolders (placeOf (.ofText "new/trees") "fig").parent = (made, .ok ()) ∧
      ∃ after, made.write (placeOf (.ofText "new/trees") "fig")
        (Json.writeDocument figDocument) = .ok after := by
    refine ⟨_, rfl, _, Files.write_eq_ok.2 ⟨["games", "table", "new", "trees", "fig.json"],
      ?_, ?_, ?_, rfl⟩⟩ <;> rfl
  have kept : empty.save .empty "fig" figText (.ofText "new/trees") = (after, .ok _) :=
    save_eq_ok.2 ⟨_, _, made, checked, folders, wrote, rfl⟩
  exact ⟨after, _, readDocument_figText, whole, kept, rfl, rfl,
    saved_document_reloads readDocument_figText whole kept⟩

end Registry

end Storyworld
