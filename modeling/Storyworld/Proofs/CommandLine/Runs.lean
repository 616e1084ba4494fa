import Storyworld.Proofs.CommandLine.Rounds
import Storyworld.Proofs.Files.Writing

/-!
Whole runs of the command that plays a scenario, without a narrator. A run that comes to its end has
found its scenario and its first state, has played its lines, and has written the last state.
-/

namespace Storyworld.CommandLine.Play

open Console

/-- Arguments for a game that nobody narrates: where its rules are, from where it is loaded, and
where it is saved. -/
structure Asks (args : List String) (a : Arguments) (rules id load save : Option String) :
    Prop where
  parsed : command.parse args = .run a
  rules : a.value? "--rules" = rules
  id : a.value? "--id" = id
  load : a.value? "--load" = load
  save : a.value? "--save" = save
  silent : a.has "--narrate" = false

/-- The scenario that the arguments ask for, in the files as they are. -/
def scenarioIn (files : Files) (a : Arguments) : Except Mishap Scenario :=
  match a.value? "--rules" with
  | some p => Registry.fileScenario files (.ofText p)
  | none =>
    let r := (Registry.empty.loadBundled files .builtIn).1
    r.get ((a.value? "--id").getD "eco_pollution")

/-- The state from which the arguments ask to go on; else the start of the scenario. -/
def stateIn (files : Files) (a : Arguments) (sc : Scenario) : Except Mishap State :=
  match a.value? "--load" with
  | some p => Session.loadState files (.ofText p)
  | none => .ok (sc.start none)

/-- The session before the first line. -/
def opened (files : Files) (a : Arguments) (now : Timestamp) : Except Mishap Session := do
  let sc ← scenarioIn files a
  let s ← stateIn files a sc
  return ⟨sc, s, [], some 50, none, now⟩

/-- A session as it is shown before the first line. -/
def welcome (g : Session) : Console Session := do
  say g.scenario.title
  if g.scenario.description ≠ "" then say g.scenario.description
  showPlace g
  return g

/-- What has been used of a narrator is shown at the end. -/
def account (responses : List Narration.Response) (g : Session) : Console Unit :=
  match g.narrator with
  | some n => sayAll [usageLine (usageOf responses n.prompts.length)]
  | none => pure ()

/-- The state is written, and the player is told so. -/
def store (responses : List Narration.Response) (p : Path) (g : Session) : Console Unit := do
  let (saved, _) ← g.save (← files) p
  setFiles saved
  say ("State saved to " ++ p.text)
  account responses g

variable {a : Arguments} {now : Timestamp} {key : Option String}
  {responses : List Narration.Response} {s t : Shell} {g : Session}

theorem outcome_lift {α : Type} (e : Except Mishap α) (s : Shell) :
    outcome (liftM e : Console α) s = (e, s) := rfl

theorem outcome_files (s : Shell) : files.outcome s = (.ok s.files, s) := rfl

theorem chosenScenario_outcome (a : Arguments) (s : Shell) :
    (chosenScenario a).outcome s = (scenarioIn s.files a, s) := by
  unfold chosenScenario scenarioIn
  cases a.value? "--rules" with
  | none => rfl
  | some p =>
    cases found : Registry.fileScenario s.files (.ofText p) with
    | error e =>
      simp only [outcome_bind, outcome_files, outcome_lift, Registry.loadFile, found]
      rfl
    | ok sc =>
      simp only [outcome_bind, outcome_files, outcome_lift, Registry.loadFile, found]
      rfl

theorem quiet_place (g : Session) : Quiet (showPlace g >>= fun _ => pure g) :=
  (quiet_showPlace g).bind fun _ => quiet_pure g

theorem quiet_described (g : Session) : Quiet (do
    if g.scenario.description ≠ "" then say g.scenario.description
    showPlace g
    return g) := by
  split
  · exact (quiet_say _).bind fun _ => quiet_place g
  · exact quiet_place g

theorem quiet_welcome (g : Session) : Quiet (welcome g) :=
  (quiet_say _).bind fun _ => quiet_described g

theorem welcome_eq_ok {h : Session} (shown : (welcome g).result = .ok h) : g = h := by
  have last (seen : (showPlace g >>= fun _ => pure g : Console Session).result = .ok h) :
      g = h := by
    obtain ⟨_, -, same⟩ := (result_bind_eq_ok (quiet_showPlace g) fun _ => quiet_pure g).1 seen
    cases same
    rfl
  obtain ⟨_, -, later⟩ := (result_bind_eq_ok (quiet_say _) fun _ => quiet_described g).1 shown
  split at later
  · obtain ⟨_, -, seen⟩ := (result_bind_eq_ok (quiet_say _) fun _ => quiet_place g).1 later
    exact last seen
  · exact last later

theorem start_outcome (plain : a.has "--narrate" = false) (s : Shell) :
    (start now key responses a).outcome s =
      match opened s.files a now with
      | .ok g => (welcome g).outcome s
      | .error e => (.error e, s) := by
  have nobody : chosenNarrator a key responses = .ok none := by
    simp [chosenNarrator, plain]
    rfl
  unfold start opened
  rw [outcome_bind, chosenScenario_outcome]
  cases scenarioIn s.files a with
  | error e => rfl
  | ok sc =>
    dsimp only
    rw [outcome_bind, outcome_lift, nobody]
    unfold stateIn
    cases a.value? "--load" with
    | none => rfl
    | some p =>
      dsimp only
      rw [outcome_bind, outcome_files]
      dsimp only
      cases Session.loadState s.files (.ofText p) with
      | error e => rfl
      | ok st => rfl

theorem quiet_account (responses : List Narration.Response) (g : Session) :
    Quiet (account responses g) := by
  unfold account
  split
  · exact quiet_sayAll _
  · exact quiet_pure ()

theorem finish_eq {p : String} (save : a.value? "--save" = some p) :
    finish responses a g =
      if g.isEnded then do
        say "\nThe scenario has ended."
        sayAll (g.state.player.history.map fun c => .ok (completionLine c))
        store responses (.ofText p) g
      else store responses (.ofText p) g := by
  unfold finish
  rw [save]
  rfl

theorem store_outcome (responses : List Narration.Response) (p : Path) (g : Session) (s : Shell) :
    (store responses p g).outcome s =
      match s.files.write p (g.state.toSave (some 2)) with
      | .ok f =>
        (say ("State saved to " ++ p.text) >>= fun _ => account responses g).outcome
          { s with files := f }
      | .error e => (.error (.file e), s) := by
  unfold store
  rw [outcome_bind, outcome_files]
  dsimp only [Session.save]
  rw [outcome_bind, outcome_lift]
  cases s.files.write p (g.state.toSave (some 2)) with
  | ok f => rfl
  | error e => rfl

theorem store_eq_ok {p : Path} {f : Files} :
    (∃ t, (store responses p g).outcome s = (.ok (), t) ∧ t.files = f) ↔
      s.files.write p (g.state.toSave (some 2)) = .ok f ∧
        (account responses g).result = .ok () := by
  have quiet : Quiet (say ("State saved to " ++ p.text) >>= fun _ => account responses g) :=
    (quiet_say _).bind fun _ => quiet_account responses g
  have result : (say ("State saved to " ++ p.text) >>= fun _ => account responses g).result =
      (account responses g).result :=
    result_bind (quiet_say _) fun _ => quiet_account responses g
  rw [store_outcome]
  cases s.files.write p (g.state.toSave (some 2)) with
  | error e => simp
  | ok f' =>
    constructor
    · rintro ⟨t, told, rfl⟩
      obtain ⟨told, same⟩ := quiet.of_outcome told
      exact ⟨congrArg Except.ok same.symm, result.symm.trans told⟩
    · rintro ⟨same, told⟩
      cases same
      obtain ⟨t, ended, same⟩ := quiet.outcome_eq { s with files := f }
      exact ⟨t, ended.trans (by rw [result, told]), same⟩

/-- At the end of a game lines about an ending may be shown, and the last state is written. -/
theorem finish_eq_ok {p : String} {f : Files} (save : a.value? "--save" = some p) :
    (∃ t, (finish responses a g).outcome s = (.ok (), t) ∧ t.files = f) ↔
      s.files.write (.ofText p) (g.state.toSave (some 2)) = .ok f ∧
        (account responses g).result = .ok () := by
  rw [finish_eq save]
  split
  · have first := quiet_say "\nThe scenario has ended."
    have lines := quiet_sayAll (g.state.player.history.map fun c => .ok (completionLine c))
    obtain ⟨u, said, same⟩ := first.outcome_eq s
    obtain ⟨v, listed, same'⟩ := lines.outcome_eq u
    rw [result_sayAll_map] at listed
    rw [outcome_bind, said]
    dsimp only [result_say]
    rw [outcome_bind, listed]
    dsimp only
    rw [store_eq_ok, same', same]
  · exact store_eq_ok

/-- A run that ends well: the game is opened and shown, its lines are played, and the state to which
they lead is written. -/
theorem Asks.run_eq_ok {program p : String} {args lines : List String}
    {rules id load : Option String} {n : Nat} {f : Files}
    (asks : Asks args a rules id load (some p)) :
    (∃ t, (run program now key responses args lines).outcome s = (.ok n, t) ∧ t.files = f) ↔
      n = 0 ∧ ∃ g h, opened s.files a now = .ok g ∧ (welcome g).result = .ok g ∧
        (rounds g lines).result = .ok h ∧
        s.files.write (.ofText p) (h.state.toSave (some 2)) = .ok f ∧
        (account responses h).result = .ok () := by
  unfold run Command.serve
  rw [asks.parsed]
  dsimp only
  constructor
  · rintro ⟨t, ran, rfl⟩
    obtain ⟨g, u, started, ran⟩ := outcome_bind_eq_ok.1 ran
    obtain ⟨h, v, played, ran⟩ := outcome_bind_eq_ok.1 ran
    obtain ⟨_, w, finished, ended⟩ := outcome_bind_eq_ok.1 ran
    cases ended
    rw [start_outcome asks.silent] at started
    split at started
    · rename_i g' opening
      obtain ⟨shown, same⟩ := (quiet_welcome g').of_outcome started
      cases welcome_eq_ok shown
      obtain ⟨played, same'⟩ := (quiet_rounds g lines).of_outcome played
      obtain ⟨written, told⟩ := (finish_eq_ok asks.save).1 ⟨_, finished, rfl⟩
      rw [same', same] at written
      exact ⟨rfl, g, h, opening, shown, played, written, told⟩
    · cases started
  · rintro ⟨rfl, g, h, opening, shown, played, written, told⟩
    obtain ⟨u, started, same⟩ := (quiet_welcome g).outcome_eq s
    obtain ⟨v, lined, same'⟩ := (quiet_rounds g lines).outcome_eq u
    rw [← same, ← same'] at written
    obtain ⟨t, finished, same''⟩ := (finish_eq_ok asks.save).2 ⟨written, told⟩
    refine ⟨t, ?_, same''⟩
    refine outcome_bind_eq_ok.2 ⟨g, u, ?_, outcome_bind_eq_ok.2 ⟨h, v, ?_,
      outcome_bind_eq_ok.2 ⟨(), t, finished, rfl⟩⟩⟩
    · rw [start_outcome asks.silent, opening]
      exact started.trans (by rw [shown])
    · rw [lined, played]

end Storyworld.CommandLine.Play
