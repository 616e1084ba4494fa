import Storyworld.Proofs.Registry.Place

/-!
Documents that are rejected. A registry and its files are changed in place, step by step, and what a
step has changed stays when a later one fails. But a document is checked before anything is made or
registered for it, so one that is rejected changes nothing. A folder is loaded up to the first file
that cannot be loaded, and what was registered until then stays.
-/

namespace Storyworld

/-- A registry with the files that it is loaded from and saved to. -/
structure Archive where
  registry : Registry
  files : Files

/-- A part of the work on an archive. What it has changed stays when it fails. -/
abbrev Errand := ExceptT Mishap (StateM Archive)

namespace Errand

variable {α β : Type}

def on (x : Errand α) (a : Archive) : Except Mishap α × Archive := (x.run).run a

/-- The result of a check, which changes nothing. -/
def ask (r : Except Mishap α) : Errand α := fun a => (r, a)

def fit (v : Value) : Errand Scenario :=
  ask ((Scenario.read v).toExcept.mapError .misfits)

def register (sc : Scenario) : Errand Unit :=
  modify fun a => { a with registry := a.registry.register sc }

def loadFile (p : Path) : Errand Scenario := do
  let text ← ask (((← get).files.read p).mapError .file)
  let v ← ask ((Json.readDocument text).mapError .ofJson)
  let sc ← fit v
  register sc
  return sc

def loadFiles : List Path → Errand (List Scenario)
  | [] => pure []
  | p :: rest => do
    let sc ← loadFile p
    let more ← loadFiles rest
    return sc :: more

def loadFolder (folder : Path) : Errand (List Scenario) := do
  let paths ← ask (((← get).files.documentsIn folder).mapError .file)
  loadFiles paths

def makeFolders (p : Path) : Errand Unit := do
  let (files, made) := (← get).files.makeFolders p
  modify fun a => { a with files := files }
  ask (made.mapError .file)

def write (p : Path) (text : String) : Errand Unit := do
  let files ← ask (((← get).files.write p text).mapError .file)
  modify fun a => { a with files := files }

def save (id text : String) (folder : Path) : Errand Path := do
  let v ← ask (Registry.readNamed id text)
  let sc ← fit v
  makeFolders (Registry.placeOf folder id).parent
  write (Registry.placeOf folder id) (Json.writeDocument v)
  register sc
  return Registry.placeOf folder id

variable {a after : Archive}

theorem on_bind (x : Errand α) (f : α → Errand β) (a : Archive) :
    (x >>= f).on a =
      match x.on a with
      | (.ok v, b) => (f v).on b
      | (.error m, b) => (.error m, b) := by
  unfold on
  rw [Noting.run_bind]
  generalize (x.run).run a = r
  obtain ⟨_ | v, b⟩ := r <;> rfl

@[simp] theorem on_pure (v : α) (a : Archive) : (pure v : Errand α).on a = (.ok v, a) := rfl

@[simp] theorem on_get (a : Archive) : (get : Errand Archive).on a = (.ok a, a) := rfl

@[simp] theorem on_modify (f : Archive → Archive) (a : Archive) :
    (modify f : Errand Unit).on a = (.ok (), f a) := rfl

@[simp] theorem on_ask (r : Except Mishap α) (a : Archive) : (ask r).on a = (r, a) := rfl

/-- Checks one after the other are one check. -/
theorem ask_bind (x : Except Mishap α) (f : α → Except Mishap β) :
    ask (x >>= f) = ask x >>= fun v => ask (f v) := by
  cases x <;> rfl

theorem loadFile_eq (p : Path) :
    loadFile p = get >>= fun a =>
      ask (Registry.fileScenario a.files p) >>= fun sc => register sc >>= fun _ => pure sc := by
  simp only [Registry.fileScenario, Registry.readScenario, ask_bind, bind_assoc]
  rfl

/-- In place, a file is loaded as the registry loads it. -/
theorem on_loadFile (p : Path) (a : Archive) :
    (loadFile p).on a =
      match a.registry.loadFile a.files p with
      | .ok (r, sc) => (.ok sc, { a with registry := r })
      | .error m => (.error m, a) := by
  rw [loadFile_eq, on_bind, on_get]
  dsimp only
  rw [on_bind, on_ask, Registry.loadFile]
  cases Registry.fileScenario a.files p <;> rfl

theorem on_loadFiles (paths : List Path) (a : Archive) :
    (loadFiles paths).on a =
      ((Registry.loadFiles a.files paths a.registry).2,
        { a with registry := (Registry.loadFiles a.files paths a.registry).1 }) := by
  induction paths generalizing a with
  | nil => rfl
  | cons p rest ih =>
    rw [loadFiles, on_bind, on_loadFile, Registry.loadFiles]
    cases a.registry.loadFile a.files p with
    | error m => rfl
    | ok loaded =>
      dsimp only
      rw [on_bind, ih]
      dsimp only
      cases (Registry.loadFiles a.files rest loaded.1).2 <;> rfl

theorem on_loadFolder (folder : Path) (a : Archive) :
    (loadFolder folder).on a =
      ((a.registry.loadFolder a.files folder).2,
        { a with registry := (a.registry.loadFolder a.files folder).1 }) := by
  simp only [loadFolder, on_bind, on_get, on_ask, Registry.loadFolder]
  cases a.files.documentsIn folder with
  | error e => rfl
  | ok paths => exact on_loadFiles paths a

theorem save_eq (id text : String) (folder : Path) :
    save id text folder = ask (Registry.readChecked id text) >>= fun checked =>
      makeFolders (Registry.placeOf folder id).parent >>= fun _ =>
        write (Registry.placeOf folder id) (Json.writeDocument checked.1) >>= fun _ =>
          register checked.2 >>= fun _ => pure (Registry.placeOf folder id) := by
  simp only [Registry.readChecked, ask_bind, bind_assoc]
  rfl

/-- In place, a document is saved as the registry saves it. -/
theorem on_save (id text : String) (folder : Path) (a : Archive) :
    (save id text folder).on a =
      match a.registry.save a.files id text folder with
      | (files, .ok saved) => (.ok saved.path, ⟨saved.registry, files⟩)
      | (files, .error m) => (.error m, { a with files := files }) := by
  rw [save_eq, on_bind, on_ask, Registry.save]
  cases Registry.readChecked id text with
  | error m => rfl
  | ok checked =>
    obtain ⟨v, sc⟩ := checked
    unfold Registry.placeOf
    dsimp only
    generalize folder.under (.ofText (id ++ ".json")) = p
    rw [on_bind, makeFolders]
    simp only [on_bind, on_get, on_modify, on_ask]
    obtain ⟨made, _ | _⟩ := a.files.makeFolders p.parent
    · rfl
    · simp only [Except.mapError, write, on_bind, on_get, on_ask, on_modify, register, on_pure]
      cases made.write p (Json.writeDocument v) <;> rfl

end Errand

namespace Files

variable {f : Files} {folder : Path} {paths : List Path}

theorem namesIn_sorted (f : Files) (l : Location) (ending : String) :
    (f.namesIn l ending).Pairwise (· ≤ ·) := by
  have trans (a b c : String) (first : decide (a ≤ b) = true) (second : decide (b ≤ c) = true) :
      decide (a ≤ c) = true :=
    decide_eq_true (String.le_trans (of_decide_eq_true first) (of_decide_eq_true second))
  have total (a b : String) : (decide (a ≤ b) || decide (b ≤ a)) = true := by
    simpa using String.le_total a b
  exact (List.pairwise_mergeSort trans total _).imp of_decide_eq_true

theorem documentsIn_eq_ok (h : f.documentsIn folder = .ok paths) :
    ∃ names : List String, paths = names.map folder.child ∧ names.Pairwise (· ≤ ·) := by
  obtain ⟨r, -, listed⟩ := map_eq_ok.1 h
  split at listed
  · exact ⟨_, listed.symm, namesIn_sorted ..⟩
  · exact ⟨[], listed.symm, .nil⟩

end Files

namespace Registry

variable {r after : Registry} {files made : Files} {id text : String} {folder : Path}
  {m : Mishap}

/-- Reasons for which a document is not taken under an id. -/
inductive Rejects (id text : String) : Mishap → Prop where
  | unreadable {e : Json.Failure} (json : Json.readDocument text = .error e) :
      Rejects id text (.ofJson e)
  | notAnObject {v : Value} (json : Json.readDocument text = .ok v)
      (other : ∀ doc, v ≠ .mapping doc) : Rejects id text .notAnObject
  | otherId {doc : Entries} (json : Json.readDocument text = .ok (.mapping doc))
      (other : lookupLast "id" doc ≠ some (.text id)) :
      Rejects id text (.otherId ((lookupLast "id" doc).getD .null) id)
  | misfits {doc : Entries} {ms : List Schema.Misfit}
      (json : Json.readDocument text = .ok (.mapping doc))
      (same : lookupLast "id" doc = some (.text id))
      (misfits : Scenario.read (.mapping doc) = .misfits ms) : Rejects id text (.misfits ms)

theorem rejects_of_readNamed (h : readNamed id text = .error m) : Rejects id text m := by
  obtain unread | ⟨v, read, h⟩ := bind_eq_error.1 h
  · obtain ⟨e, json, rfl⟩ := mapError_eq_error.1 unread
    exact .unreadable json
  · have json := mapError_eq_ok.1 read
    split at h
    · rename_i doc
      split at h
      · rename_i found here
        split at h
        · cases h
        · rename_i apart
          cases h
          rw [← here]
          refine .otherId json fun same => ?_
          rw [same] at here
          cases here
          exact apart rfl
      · rename_i other
        cases h
        refine .otherId json fun same => ?_
        exact other id (by rw [same]; rfl)
    · rename_i other
      cases h
      exact .notAnObject json other

theorem readNamed_otherId {doc : Entries} (json : Json.readDocument text = .ok (.mapping doc))
    (other : lookupLast "id" doc ≠ some (.text id)) :
    readNamed id text = .error (.otherId ((lookupLast "id" doc).getD .null) id) := by
  refine bind_eq_error.2 (.inr ⟨.mapping doc, mapError_eq_ok.2 json, ?_⟩)
  dsimp only
  split
  · rename_i found here
    have apart : found ≠ id := by
      rintro rfl
      cases known : lookupLast "id" doc with
      | none => simp [known] at here
      | some v => exact other (by simpa [known] using here)
    rw [if_neg apart, here]
    rfl
  · rfl

/-- A check fails exactly for a reason to reject the document. -/
theorem readChecked_eq_error : readChecked id text = .error m ↔ Rejects id text m := by
  constructor
  · intro h
    obtain unnamed | ⟨v, named, h⟩ := bind_eq_error.1 h
    · exact rejects_of_readNamed unnamed
    · obtain ⟨ms, unfit, rfl⟩ := mapError_eq_error.1 (bind_pure_eq_error.1 h)
      obtain ⟨json, doc, rfl, same⟩ := readNamed_eq_ok.1 named
      exact .misfits json same (Schema.Checked.toExcept_eq_error.1 unfit)
  · rintro (⟨json⟩ | ⟨json, other⟩ | ⟨json, other⟩ | ⟨json, same, unfit⟩)
    · refine bind_eq_error.2 (.inl (bind_eq_error.2 (.inl ?_)))
      exact mapError_eq_error.2 ⟨_, json, rfl⟩
    · refine bind_eq_error.2 (.inl (bind_eq_error.2 (.inr ⟨_, mapError_eq_ok.2 json, ?_⟩)))
      split
      · exact absurd rfl (other _)
      · rfl
    · exact bind_eq_error.2 (.inl (readNamed_otherId json other))
    · refine bind_eq_error.2 (.inr ⟨_, readNamed_eq_ok.2 ⟨json, _, rfl, same⟩, ?_⟩)
      have misfits := Schema.Checked.toExcept_eq_error.2 unfit
      exact bind_pure_eq_error.2 (mapError_eq_error.2 ⟨_, misfits, rfl⟩)

theorem save_rejected (rejects : Rejects id text m) (r : Registry) (files : Files)
    (folder : Path) : r.save files id text folder = (files, .error m) := by
  unfold save
  rw [readChecked_eq_error.2 rejects]

/-- Where a document is not rejected, only the files can keep it from being saved. -/
theorem save_eq_error (h : r.save files id text folder = (made, .error m)) :
    (Rejects id text m ∧ made = files) ∨ ∃ e, m = .file e := by
  unfold save at h
  split at h
  · rename_i checked
    cases h
    exact .inl ⟨readChecked_eq_error.1 checked, rfl⟩
  · dsimp only at h
    split at h
    · cases h
      exact .inr ⟨_, rfl⟩
    · split at h
      · cases h
        exact .inr ⟨_, rfl⟩
      · cases h

theorem loadFile_eq_error {p : Path} :
    r.loadFile files p = .error m ↔ fileScenario files p = .error m :=
  bind_pure_eq_error

theorem loadFile_eq_ok {p : Path} {sc : Scenario} :
    r.loadFile files p = .ok (after, sc) ↔
      fileScenario files p = .ok sc ∧ after = r.register sc := by
  rw [loadFile, bind_eq_ok]
  constructor
  · rintro ⟨_, read, loaded⟩
    cases loaded
    exact ⟨read, rfl⟩
  · rintro ⟨read, rfl⟩
    exact ⟨sc, read, rfl⟩

/-- Files are loaded up to the first that cannot be loaded, and those before it stay. -/
theorem loadFiles_eq_error {paths : List Path} :
    loadFiles files paths r = (after, .error m) ↔
      ∃ before p later scs, paths = before ++ p :: later ∧ p ∉ before ∧
        List.Forall₂ (fun q sc => fileScenario files q = .ok sc) before scs ∧
        fileScenario files p = .error m ∧ after = scs.foldl register r := by
  induction paths generalizing r with
  | nil => exact ⟨nofun, fun ⟨before, _, _, _, split, _⟩ => by cases before <;> cases split⟩
  | cons p rest ih =>
    unfold loadFiles
    cases read : fileScenario files p with
    | error e =>
      rw [loadFile_eq_error.2 read]
      constructor
      · intro h
        cases h
        exact ⟨[], p, rest, [], rfl, List.not_mem_nil, .nil, read, rfl⟩
      · rintro ⟨before, q, later, scs, split, -, each, failed, rfl⟩
        cases each with
        | nil =>
          cases split
          cases read.symm.trans failed
          rfl
        | cons here =>
          cases split
          cases read.symm.trans here
    | ok sc =>
      -- the rest is loaded into the registry that already has this scenario
      rw [loadFile_eq_ok.2 ⟨read, rfl⟩]
      dsimp only
      rw [Prod.mk.injEq, map_eq_error, ← Prod.mk.injEq, ih]
      constructor
      · rintro ⟨before, q, later, scs, rfl, first, each, failed, rfl⟩
        have apart : q ≠ p := by
          rintro rfl
          cases read.symm.trans failed
        exact ⟨p :: before, q, later, sc :: scs, rfl, by simp [apart, first], .cons read each,
          failed, rfl⟩
      · rintro ⟨before, q, later, scs, split, first, each, failed, rfl⟩
        cases each with
        | nil =>
          cases split
          cases read.symm.trans failed
        | @cons _ sc' _ scs here each =>
          cases split
          cases read.symm.trans here
          exact ⟨_, q, later, scs, rfl, fun mem => first (List.mem_cons_of_mem _ mem), each, failed,
            rfl⟩

/-- After some scenarios are registered, an id stands for the last of them that has it, or else for
what it stood for. -/
theorem lookupLast_foldl_register (once : (r.scenarios.map Prod.fst).Nodup) (id : String)
    (scs : List Scenario) :
    lookupLast id (scs.foldl register r).scenarios =
      (scs.reverse.find? fun sc => sc.id = id).or (lookupLast id r.scenarios) := by
  induction scs generalizing r with
  | nil => rfl
  | cons sc rest ih =>
    have kept : ((r.register sc).scenarios.map Prod.fst).Nodup := putEntry_nodup once
    rw [List.foldl_cons, ih kept, register, lookupLast_putEntry _ _ _ _ once, List.reverse_cons,
      List.find?_append, Option.or_assoc]
    by_cases same : sc.id = id
    · simp [same]
    · simp [same, Ne.symm same]

theorem filter_lt_of_sorted {before later : List String} {name : String}
    (sorted : (before ++ name :: later).Pairwise (· ≤ ·)) (apart : name ∉ before) :
    (before ++ name :: later).filter (· < name) = before := by
  obtain ⟨-, behind, across⟩ := List.pairwise_append.1 sorted
  have first : before.filter (· < name) = before := by
    refine List.filter_eq_self.2 fun n mem => ?_
    have le := across n mem name List.mem_cons_self
    exact decide_eq_true (lt_of_le_of_ne le fun same => apart (same ▸ mem))
  have second : (name :: later).filter (· < name) = [] := by
    refine List.filter_eq_nil_iff.2 fun n mem => ?_
    obtain rfl | mem := List.mem_cons.1 mem
    · simp
    · have le := (List.pairwise_cons.1 behind).1 n mem
      exact fun less => String.not_lt.2 le (of_decide_eq_true less)
  rw [List.filter_append, first, second, List.append_nil]

/-- The documents of a folder are loaded in the order of their names, up to the one of this name.
Those with lesser names are the scenarios, and that one cannot be loaded. -/
structure StopsAt (files : Files) (folder : Path) (name : String) (m : Mishap)
    (scs : List Scenario) (names : List String) : Prop where
  listed : files.documentsIn folder = .ok (names.map folder.child)
  sorted : names.Pairwise (· ≤ ·)
  mem : name ∈ names
  loads : List.Forall₂ (fun n sc => fileScenario files (folder.child n) = .ok sc)
    (names.filter (· < name)) scs
  fails : fileScenario files (folder.child name) = .error m

/-- A folder cannot be loaded if it cannot be listed or one of its documents cannot be loaded. -/
theorem loadFolder_eq_error : r.loadFolder files folder = (after, .error m) ↔
    ((∃ e, m = .file e ∧ files.documentsIn folder = .error e) ∧ after = r) ∨
      ∃ names name scs, StopsAt files folder name m scs names ∧ after = scs.foldl register r := by
  unfold loadFolder
  cases listed : files.documentsIn folder with
  | error e =>
    constructor
    · intro h
      cases h
      exact .inl ⟨⟨e, rfl, rfl⟩, rfl⟩
    · rintro (⟨⟨e', rfl, same⟩, rfl⟩ | ⟨names, name, scs, stops, -⟩)
      · cases same
        rfl
      · cases listed.symm.trans stops.listed
  | ok paths =>
    obtain ⟨names, rfl, sorted⟩ := Files.documentsIn_eq_ok listed
    dsimp only
    rw [loadFiles_eq_error]
    constructor
    · rintro ⟨before, p, later, scs, split, apart, each, failed, rfl⟩
      obtain ⟨first, rest, rfl, rfl, behind⟩ := List.map_eq_append_iff.1 split
      obtain ⟨name, last, rfl, rfl, rfl⟩ := List.map_eq_cons_iff.1 behind
      rw [List.forall₂_map_left_iff] at each
      refine .inr ⟨_, name, scs, ⟨listed, sorted, by simp, ?_, failed⟩, rfl⟩
      rwa [filter_lt_of_sorted sorted fun mem => apart (List.mem_map_of_mem mem)]
    · rintro (⟨⟨e, -, unlisted⟩, -⟩ | ⟨_, name, scs, ⟨there, sorted, mem, each, failed⟩, rfl⟩)
      · cases unlisted
      · -- in sorted names, those before the first place of the name are those that are less
        obtain ⟨first, last, rfl, apart⟩ := List.eq_append_cons_of_mem mem
        rw [filter_lt_of_sorted sorted apart] at each
        rw [Except.ok.inj (listed.symm.trans there), List.map_append, List.map_cons]
        refine ⟨_, _, _, scs, rfl, ?_, List.forall₂_map_left_iff.2 each, failed, rfl⟩
        simpa [Path.child] using apart

end Registry

namespace Errand

open Registry

variable {a after : Archive} {folder p : Path} {m : Mishap}

theorem loadFile_failed : (loadFile p).on a = (.error m, after) ↔
    fileScenario a.files p = .error m ∧ after = a := by
  rw [on_loadFile, ← loadFile_eq_error]
  cases a.registry.loadFile a.files p with
  | error e => simp [eq_comm]
  | ok loaded => simp

theorem loadFolder_failed : (loadFolder folder).on a = (.error m, after) ↔
    a.registry.loadFolder a.files folder = (after.registry, .error m) ∧ after.files = a.files := by
  rw [on_loadFolder]
  obtain ⟨r, loaded⟩ := a.registry.loadFolder a.files folder
  obtain ⟨r', files⟩ := after
  simp only [Prod.mk.injEq, Archive.mk.injEq]
  exact ⟨fun ⟨failed, same, kept⟩ => ⟨⟨same, failed⟩, kept.symm⟩,
    fun ⟨⟨same, failed⟩, kept⟩ => ⟨failed, same, kept.symm⟩⟩

/-- A document that is rejected changes nothing. If a text is rejected under an id, to save it fails
and leaves the registry and the files as they are. Whenever a document is not saved, the registry
and all texts are as they were, and if it is not for the files then the document was rejected. A
file that cannot be loaded leaves everything as it is. A folder cannot be loaded exactly if it
cannot be listed, and then everything is as it was, or if one of its documents cannot be loaded.
Then exactly those with lesser names have been registered, in their order. Of scenarios that are
registered one after the other, the last one with an id takes the place of the others, and of what
had the id before. -/
theorem rejected_document_changes_nothing (a : Archive) :
    (∀ id text folder m, Rejects id text m → (save id text folder).on a = (.error m, a)) ∧
    (∀ id text folder m after, (save id text folder).on a = (.error m, after) →
      after.registry = a.registry ∧ (∀ l, after.files.textAt? l = a.files.textAt? l) ∧
        ((Rejects id text m ∧ after = a) ∨ ∃ e, m = .file e)) ∧
    (∀ p m after, (loadFile p).on a = (.error m, after) ↔
      fileScenario a.files p = .error m ∧ after = a) ∧
    (∀ folder m after, (loadFolder folder).on a = (.error m, after) ↔
      ((∃ e, m = .file e ∧ a.files.documentsIn folder = .error e) ∧ after = a) ∨
      ∃ names name scs, StopsAt a.files folder name m scs names ∧
        after = ⟨scs.foldl Registry.register a.registry, a.files⟩) ∧
    ((a.registry.scenarios.map Prod.fst).Nodup → ∀ id (scs : List Scenario),
      lookupLast id (scs.foldl Registry.register a.registry).scenarios =
        (scs.reverse.find? fun sc => sc.id = id).or (lookupLast id a.registry.scenarios)) := by
  refine ⟨fun id text folder m rejects => ?_, fun id text folder m after h => ?_,
    fun p m after => loadFile_failed, fun folder m after => ?_, lookupLast_foldl_register⟩
  · rw [on_save, save_rejected rejects]
  · rw [on_save] at h
    split at h
    · cases h
    · rename_i failed
      cases h
      refine ⟨rfl, textAt?_of_save_error failed, ?_⟩
      refine (save_eq_error failed).imp_left fun rejected => ⟨rejected.1, ?_⟩
      rw [rejected.2]
  · obtain ⟨r, files⟩ := a
    obtain ⟨r', files'⟩ := after
    rw [loadFolder_failed, loadFolder_eq_error]
    simp only [Archive.mk.injEq, or_and_right, ← exists_and_right, and_assoc]

/-- A document of a tree, in which there is nothing to do. -/
def treeDocument (id title : String) : Value :=
  .mapping [("id", .text id), ("title", .text title), ("actions", .mapping []),
    ("initial", .mapping [("situation", .text "s")]), ("situations", .mapping [])]

def tree (id title : String) : Scenario := { fig with id := id, title := title }

theorem exact_treeDocument (id title : String) : (treeDocument id title).Exact := by
  simp [treeDocument]

theorem fileScenario_tree {files : Files} {l : Location} {id title : String}
    (located : files.locate p = .ok l) (file : files.isFolder l = false)
    (here : files.textAt? l = some (Json.writeDocument (treeDocument id title))) :
    fileScenario files p = .ok (tree id title) := by
  have exact := exact_treeDocument id title
  have read := Files.read_of_no_return located file here (Json.writeDocument_no_return exact)
  have json := Json.readDocument_writeDocument exact rfl
  have fits : Scenario.read (treeDocument id title) = .fits (tree id title) := by rfl
  exact fileScenario_eq_ok.2 ⟨_, read, bind_eq_ok.2 ⟨_, mapError_eq_ok.2 json,
    mapError_eq_ok.2 (Schema.Checked.toExcept_eq_ok.2 fits)⟩⟩

/-- A registry with a tree, and a folder with four files of which the third holds no document. -/
def orchard : Archive where
  registry := ⟨[("fig", tree "fig" "Sapling")]⟩
  files := ⟨["games"], [[], ["games"], ["games", "trees"]],
    [(["games", "trees", "a.json"], Json.writeDocument (treeDocument "fig" "Green")),
      (["games", "trees", "b.json"], Json.writeDocument (treeDocument "fig" "Ripe")),
      (["games", "trees", "c.json"], "[]"),
      (["games", "trees", "d.json"], Json.writeDocument (treeDocument "plum" "Plum"))]⟩

theorem documentsIn_orchard : orchard.files.documentsIn (.ofText "trees") =
    .ok (["a.json", "b.json", "c.json", "d.json"].map (Path.ofText "trees").child) := by
  have names : orchard.files.namesIn ["games", "trees"] ".json" =
      ["a.json", "b.json", "c.json", "d.json"] := by
    have sorted : ["a.json", "b.json", "c.json", "d.json"].Pairwise
        fun a b => decide (a ≤ b) = true := by decide
    have documents :
        (["a.json", "b.json", "c.json", "d.json"].filter fun n => n.endsWith ".json") =
          ["a.json", "b.json", "c.json", "d.json"] := by decide +kernel
    exact (congrArg (List.mergeSort · _) documents).trans (List.mergeSort_of_pairwise sorted)
  have reach : orchard.files.reach? (.ofText "trees") = .ok (some ["games", "trees"]) := by rfl
  have folder : (some ["games", "trees"]).filter orchard.files.isFolder =
      some ["games", "trees"] := by rfl
  rw [Files.documentsIn, reach]
  simp only [Except.map, folder, names]

/-- The two files before the third are loaded, of which the second replaces the first. -/
theorem rejected_document_changes_nothing_orchard :
    ∃ m after, (loadFolder (.ofText "trees")).on orchard = (.error m, after) ∧
      lookupLast "fig" after.registry.scenarios = some (tree "fig" "Ripe") ∧
      lookupLast "plum" after.registry.scenarios = none ∧ after.files = orchard.files ∧
      (loadFile ((Path.ofText "trees").child "c.json")).on orchard = (.error m, orchard) ∧
      (save "plum" (Json.writeDocument (treeDocument "fig" "Ripe")) (.ofText "trees")).on orchard =
        (.error (.otherId (.text "fig") "plum"), orchard) := by
  have green : fileScenario orchard.files ((Path.ofText "trees").child "a.json") =
      .ok (tree "fig" "Green") :=
    fileScenario_tree (l := ["games", "trees", "a.json"]) rfl rfl rfl
  have ripe : fileScenario orchard.files ((Path.ofText "trees").child "b.json") =
      .ok (tree "fig" "Ripe") :=
    fileScenario_tree (l := ["games", "trees", "b.json"]) rfl rfl rfl
  obtain ⟨ms, bare⟩ : ∃ ms, fileScenario orchard.files ((Path.ofText "trees").child "c.json") =
      .error (.misfits ms) := ⟨_, rfl⟩
  have rejects : Rejects "plum" (Json.writeDocument (treeDocument "fig" "Ripe"))
      (.otherId (.text "fig") "plum") :=
    Rejects.otherId (Json.readDocument_writeDocument (exact_treeDocument _ _) rfl)
      (by simp [lookupLast])
  have sorted : ["a.json", "b.json", "c.json", "d.json"].Pairwise (· ≤ ·) := by decide
  have stops : StopsAt orchard.files (.ofText "trees") "c.json" (.misfits ms)
      [tree "fig" "Green", tree "fig" "Ripe"] ["a.json", "b.json", "c.json", "d.json"] :=
    ⟨documentsIn_orchard, sorted, by decide, .cons green (.cons ripe .nil), bare⟩
  have once : (orchard.registry.scenarios.map Prod.fst).Nodup := by decide
  obtain ⟨rejected, -, unloaded, stopped, last⟩ := rejected_document_changes_nothing orchard
  exact ⟨_, _, (stopped _ _ _).2 (.inr ⟨_, _, _, stops, rfl⟩), last once "fig" _,
    last once "plum" _, rfl, (unloaded _ _ _).2 ⟨bare, rfl⟩, rejected _ _ _ _ rejects⟩

end Errand

end Storyworld
