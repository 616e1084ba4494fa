import Storyworld.Proofs.Turn.Settling

/-!
The report on an ending. It tells how the attributes have changed since the scenario started, and
loses nothing: the changes added to the attributes of the start are the attributes of the end. A
state that has its report gets no other one.
-/

namespace Storyworld

namespace Attributes

def names : List String :=
  ["strength", "dexterity", "constitution", "intelligence", "wisdom", "charisma"]

/-- What changes add to the attribute of a name, all together. -/
def gain (changes : List AttributeChange) (name : String) : Int :=
  ((changes.filter fun c => c.name = name).map AttributeChange.change).sum

/-- The attributes with changes added to them. -/
def adding (a : Attributes) (changes : List AttributeChange) : Attributes where
  strength := a.strength + gain changes "strength"
  dexterity := a.dexterity + gain changes "dexterity"
  constitution := a.constitution + gain changes "constitution"
  intelligence := a.intelligence + gain changes "intelligence"
  wisdom := a.wisdom + gain changes "wisdom"
  charisma := a.charisma + gain changes "charisma"

/-- The fields of two records of attributes, side by side. -/
abbrev Sides := List ((String × Int) × (String × Int))

/-- The change from one side to the other. -/
def change (old new : String × Int) : AttributeChange :=
  ⟨new.1, new.2 - old.2, old.2, new.2⟩

/-- Those sides that differ. -/
def differing (sides : Sides) : Sides :=
  sides.filter fun p => p.2.2 ≠ p.1.2

theorem attributeChanges_eq (before after : Attributes) :
    attributeChanges before after =
      (differing (before.fields.zip after.fields)).map fun p => change p.1 p.2 := by
  unfold attributeChanges differing
  induction before.fields.zip after.fields with
  | nil => rfl
  | cons p rest ih =>
    by_cases same : p.2.2 = p.1.2
    · simp [same, ih]
    · simp [same, ih, change]

/-- Sides that are equal add nothing, so it does not matter that they are left out. -/
theorem gain_differing (sides : Sides) (name : String) :
    gain ((differing sides).map fun p => change p.1 p.2) name =
      ((sides.filter fun p => p.2.1 = name).map fun p => p.2.2 - p.1.2).sum := by
  unfold gain differing
  induction sides with
  | nil => rfl
  | cons p rest ih =>
    simp only [List.filter_map, List.map_map, List.filter_filter] at ih ⊢
    by_cases here : p.2.1 = name <;> by_cases same : p.2.2 = p.1.2 <;>
      simp_all [change, Function.comp_def]

theorem adding_attributeChanges (before after : Attributes) :
    before.adding (attributeChanges before after) = after := by
  simp [adding, attributeChanges_eq, gain_differing, fields]

theorem attributeChanges_names (before after : Attributes) :
    ((attributeChanges before after).map AttributeChange.name).Sublist names := by
  have side : (before.fields.zip after.fields).map (fun p => p.2.1) = names := rfl
  rw [attributeChanges_eq, List.map_map, ← side]
  exact List.filter_sublist.map _

theorem mem_attributeChanges {before after : Attributes} {c : AttributeChange}
    (mem : c ∈ attributeChanges before after) :
    (c.name, c.oldValue) ∈ before.fields ∧ (c.name, c.newValue) ∈ after.fields ∧
      c.change = c.newValue - c.oldValue ∧ c.change ≠ 0 := by
  rw [attributeChanges_eq] at mem
  obtain ⟨⟨old, new⟩, differs, rfl⟩ := List.mem_map.1 mem
  obtain ⟨side, differs⟩ := List.mem_filter.1 differs
  have named : ∀ p ∈ before.fields.zip after.fields, p.1.1 = p.2.1 := by
    simp [fields]
  obtain ⟨first, last⟩ := List.of_mem_zip side
  have same : old = (new.1, old.2) := Prod.ext (named _ side) rfl
  have other : new.2 ≠ old.2 := by simpa using differs
  have change : new.2 - old.2 ≠ 0 := by omega
  exact ⟨same ▸ first, last, rfl, change⟩

end Attributes

/-- A record that reports on the attributes at the start and at the end of a scenario. -/
structure Completion.Reports (c : Completion) (start finish : Attributes) : Prop where
  final : c.finalAttributes = finish
  sum : start.adding c.attributeChanges = finish
  order : (c.attributeChanges.map AttributeChange.name).Sublist Attributes.names
  once : (c.attributeChanges.map AttributeChange.name).Nodup
  each : ∀ a ∈ c.attributeChanges,
    (a.name, a.oldValue) ∈ start.fields ∧ (a.name, a.newValue) ∈ finish.fields ∧
      a.change = a.newValue - a.oldValue ∧ a.change ≠ 0

namespace State

theorem completion_reports (sc : Scenario) (situation : Situation) (now : Timestamp) (s : State) :
    (s.completion sc situation now).Reports (s.baseline.getD .initial) s.player.attributes where
  final := rfl
  sum := Attributes.adding_attributeChanges _ _
  order := Attributes.attributeChanges_names _ _
  once := (Attributes.attributeChanges_names _ _).nodup (by decide)
  each _ := Attributes.mem_attributeChanges

theorem recordEnding_completed {sc : Scenario} {s : State} (done : s.hasCompleted sc.id = true)
    (now : Timestamp) : s.recordEnding sc now = s := by
  obtain ⟨same, -⟩ | ⟨_, -, -, first, -⟩ := recordEnding_cases sc now s
  · exact same
  · cases done.symm.trans first

theorem recordEnding_again (sc : Scenario) (now later : Timestamp) (s : State) :
    (s.recordEnding sc now).recordEnding sc later = s.recordEnding sc now := by
  obtain ⟨same, -⟩ | ⟨situation, -, -, -, recorded⟩ := recordEnding_cases sc now s
  · rw [same]
    exact recordEnding_settled (congrArg (·.player.history) same) later
  · rw [recorded]
    have listed : s.completion sc situation now ∈
        (s.addCompletion (s.completion sc situation now)).player.history := by
      simp [addCompletion]
    exact recordEnding_completed (hasCompleted_iff.2 ⟨_, listed, rfl⟩) later

/-- To record an ending a second time, at whatever time, changes nothing. The first time adds one
record to the history, and changes nothing else, if the player is in an ending of a scenario that
has no record yet; else it changes nothing at all. The record reports on the attributes of the
player and on those of the start, which are the initial ones where none are kept. -/
theorem ending_is_reported_once (sc : Scenario) (now later : Timestamp) (s : State) :
    (s.recordEnding sc now).recordEnding sc later = s.recordEnding sc now ∧
      ((sc.isEnding s.situation = true ∧ (∀ c ∈ s.player.history, c.scenarioId ≠ sc.id) ∧
          ∃ c : Completion, s.recordEnding sc now =
              { s with player := { s.player with history := s.player.history ++ [c] } } ∧
            c.scenarioId = sc.id ∧ c.endingId = s.situation ∧
            c.Reports (s.baseline.getD .initial) s.player.attributes) ∨
        (sc.isEnding s.situation = false ∨ ∃ c ∈ s.player.history, c.scenarioId = sc.id) ∧
          s.recordEnding sc now = s) := by
  refine ⟨recordEnding_again sc now later s, ?_⟩
  obtain ⟨same, due⟩ | ⟨situation, here, ends, first, recorded⟩ := recordEnding_cases sc now s
  · refine .inr ⟨?_, same⟩
    cases ending : sc.isEnding s.situation with
    | false => exact .inl rfl
    | true => exact .inr (hasCompleted_iff.1 (due ending))
  · have unrecorded : ∀ c ∈ s.player.history, c.scenarioId ≠ sc.id := fun c mem same => by
      cases (hasCompleted_iff.2 ⟨c, mem, same⟩).symm.trans first
    exact .inl ⟨isEnding_iff.2 ⟨situation, here, ends⟩, unrecorded, _, recorded, rfl, rfl,
      completion_reports sc situation now s⟩

/-- The sailor on the island, stronger and less wise than before the voyage. -/
def castaway : State :=
  { voyage.start (some sailor) with
    situation := "island"
    baseline := some ⟨12, 10, 10, 10, 10, 3⟩
    player := { sailor with attributes := ⟨15, 10, 10, 10, 7, 3⟩ } }

theorem ending_is_reported_once_castaway :
    ∃ c : Completion, castaway.recordEnding voyage Session.noon =
        { castaway with player := { castaway.player with history := sailor.history ++ [c] } } ∧
      c.Reports ⟨12, 10, 10, 10, 10, 3⟩ ⟨15, 10, 10, 10, 7, 3⟩ ∧
      (castaway.recordEnding voyage Session.noon).recordEnding voyage
          ⟨2027, 1, 1, 0, 0, 0, 0, none⟩ = castaway.recordEnding voyage Session.noon := by
  obtain ⟨again, ⟨-, -, c, recorded, -, -, reports⟩ | ⟨idle, -⟩⟩ :=
    ending_is_reported_once voyage Session.noon ⟨2027, 1, 1, 0, 0, 0, 0, none⟩ castaway
  · exact ⟨c, recorded, reports, again⟩
  · have ending : voyage.isEnding castaway.situation = true := by decide
    have other : ¬ ∃ c ∈ castaway.player.history, c.scenarioId = voyage.id := by decide
    obtain nowhere | done := idle
    · cases ending.symm.trans nowhere
    · exact absurd done other

end State

end Storyworld
