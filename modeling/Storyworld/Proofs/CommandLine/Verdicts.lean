import Mathlib.Data.List.Forall2
import Storyworld.CommandLine.Validate
import Storyworld.Proofs.CommandLine.Shell
import Storyworld.Proofs.Files.Writing
import Storyworld.Proofs.Json.Document

/-!
Verdicts of the command that checks documents. Each file is checked on its own: what is printed for
it, and whether it passes, hangs on that file alone. What is printed for several files is put
together in their order, and the command fails if one of them fails.
-/

namespace Storyworld.CommandLine

/-- The shell with more printed on it. -/
def Shell.printing (s : Shell) (text : String) : Shell :=
  { s with printed := s.printed ++ text }

namespace Shell

@[simp] theorem printing_nothing (s : Shell) : s.printing "" = s := by
  simp [printing]

@[simp] theorem printing_printing (s : Shell) (text more : String) :
    (s.printing text).printing more = s.printing (text ++ more) := by
  simp [printing, String.append_assoc]

theorem printing_cancel {s : Shell} {text other : String}
    (h : s.printing text = s.printing other) : text = other := by
  have same : s.printed ++ text = s.printed ++ other := congrArg Shell.printed h
  exact (String.append_right_inj _).1 same

end Shell

namespace Console

variable {α β : Type}

/-- On shells with the given files a computation comes to a result and prints a text. It does
nothing else. -/
structure Prints (x : Console α) (f : Files) (r : Except Mishap α) (text : String) : Prop where
  outcome : ∀ s : Shell, s.files = f → x.outcome s = (r, s.printing text)

variable {x : Console α} {f : Files} {r : Except Mishap α} {text : String}

theorem prints_of_outcome {s : Shell} (h : ∃ r text, Prints x s.files r text) {t : Shell}
    (ran : x.outcome s = (r, t)) : ∃ text, Prints x s.files r text ∧ t = s.printing text := by
  obtain ⟨r', text, prints⟩ := h
  cases (prints.outcome s rfl).symm.trans ran
  exact ⟨text, prints, rfl⟩

theorem prints_pure (a : α) : Prints (pure a) f (.ok a) "" :=
  ⟨fun s _ => Prod.ext rfl s.printing_nothing.symm⟩

theorem prints_throw (e : Mishap) : Prints (throw e : Console α) f (.error e) "" :=
  ⟨fun s _ => Prod.ext rfl s.printing_nothing.symm⟩

theorem prints_say (line : String) : Prints (say line) f (.ok ()) (line ++ "\n") :=
  ⟨fun _ _ => rfl⟩

theorem prints_files : Prints files f (.ok f) "" :=
  ⟨fun s here => Prod.ext (congrArg Except.ok here) s.printing_nothing.symm⟩

theorem Prints.bind {a : α} {g : α → Console β} {r : Except Mishap β} {more : String}
    (first : Prints x f (.ok a) text) (later : Prints (g a) f r more) :
    Prints (x >>= g) f r (text ++ more) := by
  refine ⟨fun s here => ?_⟩
  rw [outcome_bind, first.outcome s here]
  dsimp only
  rw [later.outcome (s.printing text) here, Shell.printing_printing]

theorem Prints.bind_pure {a : α} (first : Prints x f (.ok a) text) (g : α → β) :
    Prints (x >>= fun a => pure (g a)) f (.ok (g a)) text := by
  have both := first.bind (g := fun a => pure (g a)) (prints_pure (g a))
  rwa [String.append_empty] at both

theorem Prints.bind_error {e : Mishap} (stopped : Prints x f (.error e) text)
    (g : α → Console β) : Prints (x >>= g) f (.error e) text := by
  refine ⟨fun s here => ?_⟩
  rw [outcome_bind, stopped.outcome s here]

theorem Prints.unique {r' : Except Mishap α} {text' : String} (one : Prints x f r text)
    (other : Prints x f r' text') : r = r' ∧ text = text' := by
  have same := (one.outcome ⟨f, "", []⟩ rfl).symm.trans (other.outcome ⟨f, "", []⟩ rfl)
  obtain ⟨result, shell⟩ := Prod.mk.inj same
  exact ⟨result, Shell.printing_cancel shell⟩

/-- A computation prints if both of its parts do. -/
theorem exists_prints_bind {g : α → Console β} (first : ∃ r text, Prints x f r text)
    (later : ∀ a, ∃ r text, Prints (g a) f r text) : ∃ r text, Prints (x >>= g) f r text := by
  obtain ⟨e | a, text, prints⟩ := first
  · exact ⟨_, _, prints.bind_error g⟩
  · obtain ⟨r, more, further⟩ := later a
    exact ⟨_, _, prints.bind further⟩

theorem prints_bind_ok {g : α → Console β} {b : β} (first : ∃ r text, Prints x f r text)
    (later : ∀ a, ∃ r text, Prints (g a) f r text) :
    Prints (x >>= g) f (.ok b) text ↔ ∃ a before after,
      Prints x f (.ok a) before ∧ Prints (g a) f (.ok b) after ∧ text = before ++ after := by
  constructor
  · intro whole
    obtain ⟨e | a, before, prints⟩ := first
    · cases (whole.unique (prints.bind_error g)).1
    · obtain ⟨r, after, further⟩ := later a
      obtain ⟨same, texts⟩ := whole.unique (prints.bind further)
      exact ⟨a, before, after, prints, same ▸ further, texts⟩
  · rintro ⟨a, before, after, prints, further, rfl⟩
    exact prints.bind further

/-- Lines that can all be written are. -/
theorem prints_sayAll_ok (lines : List String) :
    ∃ text, Prints (sayAll (lines.map .ok)) f (.ok ()) text := by
  induction lines with
  | nil => exact ⟨_, prints_pure ()⟩
  | cons line rest ih =>
    obtain ⟨text, later⟩ := ih
    exact ⟨_, (prints_say line).bind later⟩

end Console

namespace Validate

open Console

/-- Arguments of the command for some files, with warnings counted as failures or not. -/
def Asks (args : List String) (strict : Bool) (names : List String) : Prop :=
  ∃ a, command.parse args = .run a ∧ a.has "--strict" = strict ∧ a.files = names

/-- The file at a path is refused: it cannot be read, it holds no mapping, or there is an issue that
counts. -/
inductive Fails (strict : Bool) (f : Files) (p : Path) : Prop where
  | unreadable {e : FileError} (read : f.read p = .error e)
  | misread {text : String} {m : Json.Misread} (read : f.read p = .ok text)
      (json : Json.readDocument text = .error (.misread m))
  | notAnObject {text : String} {v : Value} (read : f.read p = .ok text)
      (json : Json.readDocument text = .ok v) (other : ∀ doc, v ≠ .mapping doc)
  | issue {text : String} {doc : Entries} {issues : List Check.Issue} {i : Check.Issue}
      (read : f.read p = .ok text) (json : Json.readDocument text = .ok (.mapping doc))
      (checked : Check.document doc = .ok issues) (mem : i ∈ issues)
      (counts : i.severity = .error ∨ strict = true ∧ i.severity = .warning)

/-- Arguments for files of any names. -/
def line (strict : Bool) (names : List String) : List String :=
  (if strict then ["--strict"] else []) ++ "--" :: names

theorem work_plain (c : Command) (p : Progress) (run : List Token) (names : List String) :
    c.work p run (names.map .plain) = Command.finish (p.takeRun (run ++ names.map .plain)) := by
  induction names generalizing run with
  | nil => simp [Command.work]
  | cons name rest ih =>
    rw [List.map_cons, Command.work, ih]
    simp

theorem takeRun_texts {p : Progress} {run : List Token} {names : List String} (any : names ≠ [])
    (left : p.filesLeft = true) (texts : run.flatMap textOf = names) :
    p.takeRun run =
      { p with arguments := { p.arguments with files := names }, filesLeft := false } := by
  have full : run ≠ [] := by
    rintro rfl
    exact any texts.symm
  simp [Progress.takeRun, full, texts, any, left]

theorem asks_line (strict : Bool) {names : List String} (any : names ≠ []) :
    Asks (line strict names) strict names := by
  have texts : ([Token.dashes] ++ names.map Token.plain).flatMap textOf = names := by
    simp [List.flatMap_map, textOf]
  have taken (a : Arguments) (o : List Spec) :
      command.work ⟨a, o, true, false⟩ [] (.dashes :: names.map .plain) =
        .run { a with files := names } := by
    rw [Command.work, work_plain]
    exact congrArg Command.finish (takeRun_texts any rfl texts)
  cases strict with
  | false => exact ⟨_, taken ⟨[], [], []⟩ [], rfl, rfl⟩
  | true => exact ⟨_, taken ⟨[], ["--strict"], []⟩ _, rfl, rfl⟩

variable {strict : Bool} {f : Files} {p : Path}

/-- An issue counts if it is an error, or in strict checks a warning. -/
theorem refused_iff {issues : List Check.Issue} :
    (!(Check.hasErrors issues || strict && Check.warningCount issues != 0)) = false ↔
      ∃ i ∈ issues, i.severity = .error ∨ strict = true ∧ i.severity = .warning := by
  have errors : Check.hasErrors issues = true ↔ ∃ i ∈ issues, i.severity = .error := by
    simp [Check.hasErrors]
  have warnings : (Check.warningCount issues != 0) = true ↔
      ∃ i ∈ issues, i.severity = .warning := by
    simp [Check.warningCount]
  rw [Bool.not_eq_false', Bool.or_eq_true, Bool.and_eq_true, errors, warnings]
  constructor
  · rintro (⟨i, mem, severe⟩ | ⟨on, i, mem, mild⟩)
    · exact ⟨i, mem, .inl severe⟩
    · exact ⟨i, mem, .inr ⟨on, mild⟩⟩
  · rintro ⟨i, mem, severe | ⟨on, mild⟩⟩
    · exact .inl ⟨i, mem, severe⟩
    · exact .inr ⟨on, i, mem, mild⟩

theorem fails_iff_issue {text : String} {doc : Entries} {issues : List Check.Issue}
    (read : f.read p = .ok text) (json : Json.readDocument text = .ok (.mapping doc))
    (checked : Check.document doc = .ok issues) :
    Fails strict f p ↔
      ∃ i ∈ issues, i.severity = .error ∨ strict = true ∧ i.severity = .warning := by
  constructor
  · rintro (⟨read'⟩ | ⟨read', json'⟩ | ⟨read', json', other⟩ |
      ⟨read', json', checked', mem, counts⟩) <;>
    cases read.symm.trans read'
    · cases json.symm.trans json'
    · cases json.symm.trans json'
      exact absurd rfl (other doc)
    · cases json.symm.trans json'
      cases checked.symm.trans checked'
      exact ⟨_, mem, counts⟩
  · rintro ⟨i, mem, counts⟩
    exact .issue read json checked mem counts

/-- A check that passes unless something fails, or that stops the command. -/
def Judges (x : Console Bool) (f : Files) (fails : Prop) : Prop :=
  ∃ r text, Prints x f r text ∧ ∀ b, r = .ok b → (b = false ↔ fails)

theorem judges_throw (e : Mishap) (f : Files) (fails : Prop) :
    Judges (throw e : Console Bool) f fails :=
  ⟨_, _, prints_throw e, nofun⟩

theorem prints_complain (message : String) :
    Prints (complain message) f (.ok false) ("  [error] " ++ message ++ "\n") :=
  (prints_say _).bind_pure fun _ => false

theorem judges_complain (message : String) {fails : Prop} (h : fails) :
    Judges (complain message) f fails := by
  refine ⟨_, _, prints_complain message, ?_⟩
  rintro b ⟨⟩
  exact iff_of_true rfl h

theorem judges_checkEntries (strict : Bool) (f : Files) {doc : Entries} {fails : Prop}
    (h : ∀ issues, Check.document doc = .ok issues →
      (fails ↔ ∃ i ∈ issues, i.severity = .error ∨ strict = true ∧ i.severity = .warning)) :
    Judges (checkEntries strict doc) f fails := by
  unfold checkEntries
  split
  · exact judges_throw _ f fails
  · rename_i checked
    refine ⟨_, _, (prints_say _).bind (prints_pure true), ?_⟩
    rintro b ⟨⟩
    simp [h [] checked]
  · rename_i issues _ checked
    obtain ⟨shown, told⟩ := prints_sayAll_ok (f := f) (issues.map fun i => "  " ++ i.text)
    rw [List.map_map] at told
    refine ⟨_, _, told.bind ((prints_say _).bind (prints_pure _)), ?_⟩
    rintro b ⟨⟩
    rw [h issues checked, ← refused_iff]

/-- The check of a value once it is read. -/
def judge (strict : Bool) : Except Mishap (Except String Value) → Console Bool
  | .error e => throw e
  | .ok (.error message) => complain ("could not read file: " ++ message)
  | .ok (.ok (.mapping doc)) => checkEntries strict doc
  | .ok (.ok _) => complain "a rule document must be a JSON object"

theorem judges_read (strict : Bool) (f : Files) (p : Path) :
    Judges (judge strict (readValue f p)) f (Fails strict f p) := by
  unfold readValue
  cases read : f.read p with
  | error e =>
    dsimp only
    split
    · exact judges_throw _ f _
    · exact judges_complain _ (.unreadable read)
  | ok text =>
    dsimp only
    cases json : Json.readDocument text with
    | error stop =>
      cases stop with
      | misread m => exact judges_complain _ (.misread read json)
      | fault e => exact judges_throw _ f _
    | ok v =>
      cases v with
      | mapping doc =>
        exact judges_checkEntries strict f fun issues checked => fails_iff_issue read json checked
      | _ => exact judges_complain _ (.notAnObject read json nofun)

theorem prints_checkFile_of_read {v : Except Mishap (Except String Value)}
    {r : Except Mishap Bool} {text : String} (read : readValue f p = v)
    (prints : Prints (judge strict v) f r text) :
    Prints (checkFile strict p) f r (p.text ++ ":" ++ "\n" ++ ("" ++ text)) := by
  subst read
  exact (prints_say (p.text ++ ":")).bind (prints_files.bind prints)

/-- A file is checked with a verdict, or the command stops. -/
theorem judges_checkFile (strict : Bool) (f : Files) (p : Path) :
    Judges (checkFile strict p) f (Fails strict f p) := by
  obtain ⟨r, text, prints, verdict⟩ := judges_read strict f p
  exact ⟨r, _, prints_checkFile_of_read rfl prints, verdict⟩

/-- What is printed for each of several files, and whether it passes. -/
def Singly (strict : Bool) (f : Files) : List Path → List (Bool × String) → Prop :=
  List.Forall₂ fun p o => Prints (checkFile strict p) f (.ok o.1) o.2

theorem exists_prints_checkFile (strict : Bool) (f : Files) (p : Path) :
    ∃ r text, Prints (checkFile strict p) f r text := by
  obtain ⟨r, text, prints, -⟩ := judges_checkFile strict f p
  exact ⟨r, text, prints⟩

theorem exists_prints_checkFiles (strict : Bool) (f : Files) (ps : List Path) :
    ∃ r text, Prints (checkFiles strict ps) f r text := by
  induction ps with
  | nil => exact ⟨_, _, prints_pure true⟩
  | cons p rest ih =>
    exact exists_prints_bind (exists_prints_checkFile strict f p) fun passes =>
      exists_prints_bind ih fun others => ⟨_, _, prints_pure (passes && others)⟩

/-- Several files are checked to the end if and only if each of them is. -/
theorem prints_checkFiles_ok {ps : List Path} {b : Bool} {text : String} :
    Prints (checkFiles strict ps) f (.ok b) text ↔ ∃ outs, Singly strict f ps outs ∧
      b = outs.all Prod.fst ∧ text = String.join (outs.map Prod.snd) := by
  induction ps generalizing b text with
  | nil =>
    constructor
    · intro prints
      obtain ⟨same, rfl⟩ := prints.unique (prints_pure true)
      cases same
      exact ⟨[], .nil, rfl, rfl⟩
    · rintro ⟨_, ⟨⟩, rfl, rfl⟩
      exact prints_pure true
  | cons p rest ih =>
    have ends (passes others : Bool) : ∃ r text, Prints
        (pure (passes && others) : Console Bool) f r text := ⟨_, _, prints_pure _⟩
    rw [checkFiles, prints_bind_ok (exists_prints_checkFile strict f p) fun passes =>
      exists_prints_bind (exists_prints_checkFiles strict f rest) (ends passes)]
    constructor
    · rintro ⟨passes, before, after, first, later, rfl⟩
      obtain ⟨others, more, none, checked, last, rfl⟩ :=
        (prints_bind_ok (exists_prints_checkFiles strict f rest) (ends passes)).1 later
      obtain ⟨outs, each, rfl, rfl⟩ := ih.1 checked
      obtain ⟨same, rfl⟩ := last.unique (prints_pure _)
      cases same
      exact ⟨(passes, before) :: outs, .cons first each, rfl, by simp⟩
    · rintro ⟨_, singly, rfl, rfl⟩
      cases singly with
      | @cons _ o _ outs first each =>
        have checked := ih.2 ⟨outs, each, rfl, rfl⟩
        exact ⟨o.1, o.2, _, first, checked.bind_pure (o.1 && ·), by simp⟩

/-- The exit status of checks that pass, or do not. -/
def status (passes : Bool) : Nat :=
  if passes then 0 else 1

variable {program : String} {args one : List String} {names : List String} {s t : Shell} {n : Nat}

theorem run_of_asks (asks : Asks args strict names) :
    run program args = checkFiles strict (names.map .ofText) >>= fun passes =>
      pure (status passes) := by
  obtain ⟨a, parsed, rfl, rfl⟩ := asks
  unfold run Command.serve
  rw [parsed]
  rfl

theorem run_eq_ok (asks : Asks args strict names) :
    (run program args).outcome s = (.ok n, t) ↔ ∃ outs,
      Singly strict s.files (names.map .ofText) outs ∧ n = status (outs.all Prod.fst) ∧
        t = s.printing (String.join (outs.map Prod.snd)) := by
  have checks := exists_prints_checkFiles strict s.files (names.map Path.ofText)
  have ends (passes : Bool) :
      ∃ r text, Prints (pure (status passes) : Console Nat) s.files r text :=
    ⟨_, _, prints_pure _⟩
  rw [run_of_asks asks]
  constructor
  · intro ran
    obtain ⟨text, prints, rfl⟩ := prints_of_outcome (exists_prints_bind checks ends) ran
    obtain ⟨passes, before, after, checked, last, rfl⟩ := (prints_bind_ok checks ends).1 prints
    obtain ⟨same, rfl⟩ := last.unique (prints_pure _)
    cases same
    obtain ⟨outs, singly, rfl, rfl⟩ := prints_checkFiles_ok.1 checked
    exact ⟨outs, singly, rfl, by simp⟩
  · rintro ⟨outs, singly, rfl, rfl⟩
    have checked := prints_checkFiles_ok.2 ⟨outs, singly, rfl, rfl⟩
    exact (checked.bind_pure status).outcome s rfl

/-- The command on a single file comes to its end with what the check of that file gives. -/
theorem alone_iff {name : String} {o : Nat × String} :
    (∀ one, Asks one strict [name] → (run program one).outcome s = (.ok o.1, s.printing o.2)) ↔
      ∃ b, Prints (checkFile strict (.ofText name)) s.files (.ok b) o.2 ∧ o.1 = status b := by
  constructor
  · intro alone
    obtain ⟨outs, singly, ended, told⟩ := (run_eq_ok (asks_line strict (by simp))).1
      (alone (line strict [name]) (asks_line strict (by simp)))
    cases singly with
    | @cons _ p _ outs prints each =>
      cases each
      have text : o.2 = p.2 := by simpa using Shell.printing_cancel told
      exact ⟨p.1, text ▸ prints, by simpa using ended⟩
  · rintro ⟨b, prints, same⟩ one asks
    exact (run_eq_ok asks).2 ⟨[(b, o.2)], .cons prints .nil, by simp [same], by simp⟩

theorem forall₂_alone {names : List String} {outs : List (Nat × String)} :
    List.Forall₂ (fun name o => ∀ one, Asks one strict [name] →
        (run program one).outcome s = (.ok o.1, s.printing o.2)) names outs ↔
      ∃ outs', Singly strict s.files (names.map .ofText) outs' ∧
        outs = outs'.map fun o => (status o.1, o.2) := by
  simp only [alone_iff]
  induction names generalizing outs with
  | nil =>
    constructor
    · rintro ⟨⟩
      exact ⟨[], .nil, rfl⟩
    · rintro ⟨_, ⟨⟩, rfl⟩
      exact .nil
  | cons name rest ih =>
    constructor
    · intro each
      cases each with
      | @cons _ o _ _ first later =>
        obtain ⟨b, prints, same⟩ := first
        obtain ⟨outs', singly, rfl⟩ := ih.1 later
        exact ⟨(b, o.2) :: outs', .cons prints singly, by simp [← same]⟩
    · rintro ⟨_, singly, rfl⟩
      cases singly with
      | @cons _ o _ outs' first later =>
        exact .cons ⟨o.1, first, rfl⟩ (ih.2 ⟨outs', later, rfl⟩)

theorem status_all (outs : List (Bool × String)) :
    status (outs.all Prod.fst) =
      if (outs.map fun o => (status o.1, o.2)).any fun o => o.1 = 1 then 1 else 0 := by
  induction outs with
  | nil => rfl
  | cons o rest ih =>
    obtain ⟨b, text⟩ := o
    cases b with
    | false => rfl
    | true =>
      rw [List.all_cons, Bool.true_and, ih, List.map_cons, List.any_cons]
      rfl

theorem exists_singly {ps : List Path} :
    (∃ outs, Singly strict f ps outs) ↔
      ∀ p ∈ ps, ∃ b text, Prints (checkFile strict p) f (.ok b) text := by
  induction ps with
  | nil => simp [Singly]
  | cons p rest ih =>
    rw [List.forall_mem_cons, ← ih]
    constructor
    · rintro ⟨_, singly⟩
      cases singly with
      | cons first each => exact ⟨⟨_, _, first⟩, _, each⟩
    · rintro ⟨⟨b, text, first⟩, outs, each⟩
      exact ⟨(b, text) :: outs, .cons first each⟩

/-- Of several files that are checked, one does not pass if and only if one fails. -/
theorem singly_fails {ps : List Path} {outs : List (Bool × String)}
    (singly : Singly strict f ps outs) :
    outs.all Prod.fst = false ↔ ∃ p ∈ ps, Fails strict f p := by
  induction singly with
  | nil => simp
  | @cons p o rest outs prints _ ih =>
    obtain ⟨r, text, prints', verdict⟩ := judges_checkFile strict f p
    have here := verdict o.1 (prints'.unique prints).1
    rw [List.all_cons, Bool.and_eq_false_iff, here, ih]
    simp

theorem run_fails (asks : Asks args strict names)
    (ran : (run program args).outcome s = (.ok n, t)) :
    (n = 1 ∧ ∃ name ∈ names, Fails strict s.files (.ofText name)) ∨
      n = 0 ∧ ∀ name ∈ names, ¬ Fails strict s.files (.ofText name) := by
  obtain ⟨outs, singly, rfl, -⟩ := (run_eq_ok asks).1 ran
  have refused := singly_fails singly
  simp only [List.mem_map, exists_exists_and_eq_and] at refused
  cases passes : outs.all Prod.fst with
  | false => exact .inl ⟨rfl, refused.1 passes⟩
  | true =>
    refine .inr ⟨rfl, fun name mem fails => ?_⟩
    cases passes.symm.trans (refused.2 ⟨name, mem, fails⟩)

/-- The command comes to its end on some files if and only if it does so on each of them alone. -/
theorem run_ends (asks : Asks args strict names) :
    (∃ n t, (run program args).outcome s = (.ok n, t)) ↔
      ∀ name ∈ names, ∃ b text, Prints (checkFile strict (.ofText name)) s.files (.ok b) text := by
  rw [← List.forall_mem_map (f := Path.ofText) (P := fun p => ∃ b text,
    Prints (checkFile strict p) s.files (.ok b) text), ← exists_singly]
  simp only [run_eq_ok asks]
  exact ⟨fun ⟨_, _, outs, singly, _⟩ => ⟨outs, singly⟩,
    fun ⟨outs, singly⟩ => ⟨_, _, outs, singly, rfl, rfl⟩⟩

/-- Files are judged apart. The command comes to its end on some files if and only if it does so on
each of them alone. Then it prints what it prints for each file alone, in their order, changes
nothing else, and its exit status is 1 if that is the status of a file alone, and else 0. The status
is 1 exactly if a file fails. On the same files in another order, or with some of them more than
once, it comes to its end with the same status. -/
theorem files_are_judged_apart (program : String) (asks : Asks args strict names) (s : Shell) :
    (∀ n t, (run program args).outcome s = (.ok n, t) ↔ ∃ outs : List (Nat × String),
      List.Forall₂ (fun name o => ∀ one, Asks one strict [name] →
        (run program one).outcome s = (.ok o.1, s.printing o.2)) names outs ∧
      t = s.printing (String.join (outs.map Prod.snd)) ∧
      n = if outs.any (fun o => o.1 = 1) then 1 else 0) ∧
    ∀ n t, (run program args).outcome s = (.ok n, t) →
      ((n = 1 ∧ ∃ name ∈ names, Fails strict s.files (.ofText name)) ∨
        n = 0 ∧ ∀ name ∈ names, ¬ Fails strict s.files (.ofText name)) ∧
      ∀ args' names', Asks args' strict names' → (∀ name, name ∈ names' ↔ name ∈ names) →
        ∃ t', (run program args').outcome s = (.ok n, t') := by
  refine ⟨fun n t => ?_, fun n t ran => ⟨run_fails asks ran, fun args' names' asks' same => ?_⟩⟩
  · rw [run_eq_ok asks]
    constructor
    · rintro ⟨outs, singly, rfl, rfl⟩
      refine ⟨_, forall₂_alone.2 ⟨outs, singly, rfl⟩, ?_, status_all outs⟩
      rw [List.map_map]
      rfl
    · rintro ⟨_, alone, rfl, rfl⟩
      obtain ⟨outs, singly, rfl⟩ := forall₂_alone.1 alone
      refine ⟨outs, singly, (status_all outs).symm, ?_⟩
      rw [List.map_map]
      rfl
  · -- the other files end as well, and both verdicts come from the same failures
    have each := (run_ends asks).1 ⟨n, t, ran⟩
    obtain ⟨n', t', ran'⟩ := (run_ends asks').2 fun name mem => each name ((same name).1 mem)
    have here := run_fails asks ran
    have there := run_fails asks' ran'
    simp only [same] at there
    have equal : n' = n := by
      obtain ⟨rfl, name, mem, fails⟩ | ⟨rfl, passes⟩ := here
      · obtain ⟨rfl, -⟩ | ⟨-, passes⟩ := there
        · rfl
        · exact absurd fails (passes name mem)
      · obtain ⟨-, name, mem, fails⟩ | ⟨rfl, -⟩ := there
        · exact absurd fails (passes name mem)
        · rfl
    exact ⟨t', equal ▸ ran'⟩

/-- The document of a hut in which there is nothing to do. -/
def hutDocument : Entries := [
    ("id", .text "hut"), ("title", .text "Hut"), ("language", .text "en"), ("actions", .mapping []),
    ("tracks", .mapping []), ("initial", .mapping [("situation", .text "in")]),
    ("situations", .mapping [("in", .mapping [("label", .text "In"), ("on_action", .list []),
      ("ending", .bool true)])])]

/-- A shell in a folder with the hut and nothing else. -/
def cellar : Shell where
  files := ⟨["games"], [[], ["games"]],
    [(["games", "hut.json"], Json.writeDocument (.mapping hutDocument))]⟩
  printed := ""
  notices := []

theorem exact_hutDocument : (Value.mapping hutDocument).Exact := by
  simp [hutDocument]

theorem readValue_eq {text : String} {v : Value} (read : f.read p = .ok text)
    (json : Json.readDocument text = .ok v) : readValue f p = .ok (.ok v) := by
  simp only [readValue, read, json]

theorem readValue_hut :
    readValue cellar.files (.ofText "hut.json") = .ok (.ok (.mapping hutDocument)) := by
  have read : cellar.files.read (.ofText "hut.json") =
      .ok (Json.writeDocument (.mapping hutDocument)) :=
    Files.read_of_no_return (l := ["games", "hut.json"]) rfl rfl rfl
      (Json.writeDocument_no_return exact_hutDocument)
  exact readValue_eq read (Json.readDocument_writeDocument exact_hutDocument rfl)

/-- A file that is not there, before and behind the hut. -/
theorem files_are_judged_apart_cellar :
    ∃ t outs, (run "check" ["gone.json", "hut.json"]).outcome cellar = (.ok 1, t) ∧
      List.Forall₂ (fun name o => ∀ one, Asks one false [name] →
        (run "check" one).outcome cellar = (.ok o.1, cellar.printing o.2))
        ["gone.json", "hut.json"] outs ∧
      t = cellar.printing (String.join (outs.map Prod.snd)) ∧
      ∃ t', (run "check" ["hut.json", "gone.json", "hut.json"]).outcome cellar = (.ok 1, t') := by
  have asks : Asks ["gone.json", "hut.json"] false ["gone.json", "hut.json"] :=
    ⟨_, rfl, rfl, rfl⟩
  have asks' : Asks ["hut.json", "gone.json", "hut.json"] false
      ["hut.json", "gone.json", "hut.json"] := ⟨_, rfl, rfl, rfl⟩
  have gone : readValue cellar.files (.ofText "gone.json") =
      .ok (.error "[Errno 2] No such file or directory: 'gone.json'") := by rfl
  have passes :
      Prints (checkEntries false hutDocument) cellar.files (.ok true) ("  OK" ++ "\n") := by
    have checked : Check.document hutDocument = .ok [] := by rfl
    unfold checkEntries
    rw [checked]
    exact (prints_say _).bind_pure fun _ => true
  obtain ⟨n, t, ran⟩ : ∃ n t,
      (run "check" ["gone.json", "hut.json"]).outcome cellar = (.ok n, t) := by
    rw [run_ends asks]
    simp only [List.forall_mem_cons]
    exact ⟨⟨false, _, prints_checkFile_of_read gone (prints_complain _)⟩,
      ⟨true, _, prints_checkFile_of_read readValue_hut passes⟩, nofun⟩
  obtain ⟨whole, verdict⟩ := files_are_judged_apart "check" asks cellar
  obtain ⟨outs, alone, told, -⟩ := (whole n t).1 ran
  obtain ⟨⟨rfl, -⟩ | ⟨-, none⟩, again⟩ := verdict n t ran
  · exact ⟨t, outs, ran, alone, told, again _ _ asks' (by simp)⟩
  · exact absurd (.unreadable (e := ⟨.notFound, "gone.json"⟩) rfl) (none "gone.json" (by simp))

end Validate

end Storyworld.CommandLine
