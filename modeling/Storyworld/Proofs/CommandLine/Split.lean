import Storyworld.Proofs.CommandLine.Runs
import Storyworld.Proofs.Registry.Saving
import Storyworld.Proofs.State.Save

/-!
A game that is saved in between. If it is played in two runs, of which the second goes on from the
save file of the first, the last save file is the one that a single run writes. What a save file
leaves out are the earlier states of the session, which only a line that takes a turn back would need.
-/

namespace Storyworld

namespace CommandLine.Play

open Console

variable {files saved : Files} {a b : Arguments} {sc : Scenario} {s : State} {p : Path}

theorem scenarioIn_congr (rules : a.value? "--rules" = b.value? "--rules")
    (id : a.value? "--id" = b.value? "--id") (files : Files) :
    scenarioIn files a = scenarioIn files b := by
  rw [scenarioIn, scenarioIn, rules, id]

theorem scenarioIn_keysOnce (found : scenarioIn files a = .ok sc) : sc.KeysOnce := by
  unfold scenarioIn at found
  split at found
  · obtain ⟨text, -, read⟩ := Registry.fileScenario_eq_ok.1 found
    obtain ⟨v, -, read⟩ := bind_eq_ok.1 read
    rw [mapError_eq_ok, Schema.Checked.toExcept_eq_ok] at read
    exact Scenario.keysOnce_of_read read
  · dsimp only [Registry.get] at found
    split at found
    · rename_i known
      cases found
      have only : sc = EcoPollution.scenario :=
        congrArg Prod.snd (List.mem_singleton.1 (lookupLast_mem known))
      rw [only]
      exact ⟨by decide, by decide⟩
    · cases found

/-- A save file is no scenario, so writing one does not put another scenario in its place. -/
theorem scenarioIn_of_write (wrote : files.write p (s.toSave (some 2)) = .ok saved)
    (whole : s.Whole) (found : scenarioIn saved a = .ok sc) : scenarioIn files a = .ok sc := by
  unfold scenarioIn at found ⊢
  split at found
  · obtain ⟨text, read, document⟩ := Registry.fileScenario_eq_ok.1 found
    obtain rfl | before := Files.read_of_write wrote (State.toSave_no_return _ whole) read
    · exact absurd document (State.readScenario_toSave _ whole sc)
    · exact Registry.fileScenario_eq_ok.2 ⟨text, before, document⟩
  · exact found

theorem loadState_of_write {t : State} (wrote : files.write p (s.toSave (some 2)) = .ok saved)
    (savable : s.Savable) (loaded : Session.loadState saved p = .ok t) : t = s := by
  obtain ⟨text, read, loaded⟩ := bind_eq_ok.1 loaded
  rw [mapError_eq_ok] at read
  rw [mapError_eq_ok, Schema.Checked.toExcept_eq_ok] at loaded
  rw [(Files.read_written wrote (State.toSave_no_return _ savable.whole)).1 read] at loaded
  exact State.ofSave_toSave _ savable.whole savable.once loaded

theorem loadState_written (wrote : files.write p (s.toSave (some 2)) = .ok saved)
    (savable : s.Savable) (exact : s.Exact) : Session.loadState saved p = .ok s := by
  have read := (Files.read_written wrote (State.toSave_no_return _ savable.whole)).2 rfl
  have back := State.ofSave_toSave_of_exact savable.once exact (some 2)
  exact bind_eq_ok.2
    ⟨_, mapError_eq_ok.2 read, mapError_eq_ok.2 (Schema.Checked.toExcept_eq_ok.2 back)⟩

theorem opened_eq_ok {now : Timestamp} {g : Session} :
    opened files a now = .ok g ↔ ∃ sc s, scenarioIn files a = .ok sc ∧
      stateIn files a sc = .ok s ∧ ⟨sc, s, [], some 50, none, now⟩ = g := by
  unfold opened
  rw [bind_eq_ok]
  refine exists_congr fun sc => ?_
  rw [bind_eq_ok]
  constructor
  · rintro ⟨found, s, start, same⟩
    cases same
    exact ⟨s, found, start, rfl⟩
  · rintro ⟨s, found, start, rfl⟩
    exact ⟨found, s, start, rfl⟩

theorem opened_congr (rules : a.value? "--rules" = b.value? "--rules")
    (id : a.value? "--id" = b.value? "--id") (load : a.value? "--load" = b.value? "--load")
    (files : Files) (now : Timestamp) : opened files a now = opened files b now := by
  simp only [opened, stateIn, scenarioIn_congr rules id, load]

theorem savable_without_past (g : Session) (savable : s.Savable) :
    g.Savable { g with state := s, past := [] } :=
  ⟨rfl, rfl, rfl, rfl, savable, fun _ mem => absurd mem List.not_mem_nil⟩

variable {g h : Session} {now : Timestamp}

/-- A game that starts anew has a scenario in which all numbers are whole, and can be saved. -/
theorem opened_savable (load : a.value? "--load" = none)
    (whole : ∀ sc, scenarioIn files a = .ok sc → sc.Whole)
    (opening : opened files a now = .ok g) :
    g.scenario.Whole ∧ g.narrator = none ∧ g.Savable g := by
  obtain ⟨sc, s, found, start, same⟩ := opened_eq_ok.1 opening
  rw [stateIn, load] at start
  cases start
  subst same
  have fresh := State.start_savable (scenarioIn_keysOnce found) (whole sc found) none
  exact ⟨whole sc found, rfl,
    savable_without_past ⟨sc, sc.start none, [], some 50, none, now⟩ fresh⟩

/-- A game that is opened from the save file of another one goes on where the other one was, but for
the turns that could be taken back. -/
theorem opened_again {again : Session} (rules : b.value? "--rules" = a.value? "--rules")
    (id : b.value? "--id" = a.value? "--id") {between : String}
    (load : b.value? "--load" = some between) (opening : opened files a now = .ok g)
    (savable : g.Savable h)
    (written : files.write (.ofText between) (h.state.toSave (some 2)) = .ok saved)
    (reopening : opened saved b now = .ok again) : again.withPast h.past = h := by
  obtain ⟨sc, s, found, -, same⟩ := opened_eq_ok.1 opening
  obtain ⟨sc', s', found', start, same'⟩ := opened_eq_ok.1 reopening
  rw [scenarioIn_congr rules id] at found'
  rw [stateIn, load] at start
  have before := scenarioIn_of_write written savable.state.whole found'
  cases found.symm.trans before
  rw [loadState_of_write written savable.state start] at same'
  subst same same'
  exact savable.eq.symm

variable {key : Option String} {responses : List Narration.Response}

theorem ok_of_isSome {ε α : Type} {x : Except ε α} (some : x.toOption.isSome = true) :
    ∃ a, x = .ok a := by
  cases x with
  | ok a => exact ⟨a, rfl⟩
  | error e => cases some

theorem account_silent {g : Session} (silent : g.narrator = none) :
    (account responses g).result = .ok () := by
  unfold account
  rw [silent]
  rfl

/-- A shell without files. -/
def table : Shell := ⟨.empty, "", []⟩

/-- The river at the start. -/
def river : Session :=
  ⟨EcoPollution.scenario, EcoPollution.scenario.start none, [], some 50, none, Session.noon⟩

/-- A state of the river from which the game goes on. -/
def resumed (s : State) : Session :=
  ⟨EcoPollution.scenario, s, [], some 50, none, Session.noon⟩

/-- Lines of which one takes a turn back, one is blank and one is about an unknown action. -/
def morning : List String := ["sample", ":undo", "", "observe", ":fail dance", "sample water"]

/-- Lines of which the last one comes after the player has left. -/
def evening : List String := [":state", "sample", ":quit", "sample"]

theorem scenarioIn_river (rules : a.value? "--rules" = none) (id : a.value? "--id" = none)
    (files : Files) : scenarioIn files a = .ok EcoPollution.scenario := by
  rw [scenarioIn, rules, id]
  rfl

theorem river_welcome : (welcome river).result = .ok river := by
  have shows : (welcome river).result.toOption.isSome = true := by decide +kernel
  obtain ⟨g, shown⟩ := ok_of_isSome shows
  rw [shown, welcome_eq_ok shown]

theorem river_evening : ∃ h k, (rounds river morning).result = .ok h ∧ h.state.Exact ∧
    (welcome (resumed h.state)).result = .ok (resumed h.state) ∧
    (rounds (resumed h.state) evening).result = .ok k := by
  have plays : (rounds river morning).result.toOption.any (fun h => decide h.state.Exact &&
      ((welcome (resumed h.state)).result.toOption.isSome &&
        (rounds (resumed h.state) evening).result.toOption.isSome)) = true := by decide +kernel
  cases played : (rounds river morning).result with
  | error e =>
    rw [played] at plays
    cases plays
  | ok h =>
    rw [played] at plays
    obtain ⟨exact, shows, ends⟩ : h.state.Exact ∧
        (welcome (resumed h.state)).result.toOption.isSome = true ∧
        (rounds (resumed h.state) evening).result.toOption.isSome = true := by
      simpa [Except.toOption] using plays
    obtain ⟨g, shown⟩ := ok_of_isSome shows
    obtain ⟨k, ended⟩ := ok_of_isSome ends
    cases welcome_eq_ok shown
    exact ⟨h, k, rfl, exact, shown, ended⟩

end CommandLine.Play

end Storyworld
