import Storyworld.Proofs.Schema.Fits
import Storyworld.State.Document

/-!
States that were written as documents are read as they were. Each part is written with all of its
fields, so that no default is used, and a kind is written by the name under which it is read.
-/

namespace Storyworld

open Schema

/-- A value that is written by a function is read, or a missing one is. -/
theorem nullable_written {α : Type} {read : Reader α} {write : α → Value}
    (each : ∀ a, read (write a) = .fits a) (there : ∀ a, write a ≠ .null) (o : Option α) :
    nullable read (.ofOption write o) = .fits o := by
  cases o with
  | none => rfl
  | some a => exact nullable_eq_fits.2 (.inr ⟨a, there a, each a, rfl⟩)

theorem text_written (s : String) : text (.text s) = .fits s := rfl

theorem textOption_written {es : Entries} {key : String} {o : Option String}
    (here : lookupLast key es = some (.ofTextOption o)) : textOption es [key] = .fits o := by
  rw [textOption, optional_here here, Value.ofTextOption, nullable_written text_written nofun]
  rfl

theorem Number.read_toValue (n : Number) : number n.toValue = .fits n := by
  cases n <;> rfl

theorem Counter.read_toValue (c : Counter) : Counter.read c.toValue = .fits c := by
  cases c with
  | flag b => rfl
  | number n => cases n <;> rfl

theorem Slot.read_name (s : Slot) : choice Slot.names (.text s.name) = .fits s := by
  cases s <;> rfl

theorem Language.read_name (l : Language) : choice Language.names (.text l.name) = .fits l := by
  cases l <;> rfl

theorem LogKind.read_name (k : LogKind) : choice LogKind.names (.text k.name) = .fits k := by
  cases k <;> rfl

theorem Attributes.read_toValue (a : Attributes) : Attributes.read a.toValue = .fits a := rfl

theorem AttributeChange.read_toValue (c : AttributeChange) :
    AttributeChange.read c.toValue = .fits c := rfl

theorem Equipment.read_toValue (e : Equipment) : Equipment.read e.toValue = .fits e := by
  have field {key : String} {o : Option String} (here : lookupLast key
      (e.fields.map fun f => (f.1, Value.ofTextOption f.2)) = some (.ofTextOption o)) :=
    textOption_written here
  simp only [Equipment.read, Equipment.toValue, model]
  rw [field (o := e.top) rfl, field (o := e.bottom) rfl, field (o := e.underwear) rfl,
    field (o := e.panties) rfl, field (o := e.shoes) rfl, field (o := e.socks) rfl,
    field (o := e.accessory) rfl]
  rfl

theorem Item.read_toValue (i : Item) : Item.read i.toValue = .fits i := by
  have slot : Schema.optional i.fields ["slot"] none (nullable (choice Slot.names)) =
      .fits i.slot := by
    rw [optional_here (v := .ofTextOption (i.slot.map Slot.name)) rfl]
    cases i.slot with
    | none => rfl
    | some s => cases s <;> rfl
  simp only [Item.read, Item.toValue, model, slot]
  rfl

theorem Completion.read_toValue (c : Completion) : Completion.read c.toValue = .fits c := by
  simp only [Completion.read, Completion.toValue, model]
  rw [optional_here (v := .list (c.attributeChanges.map AttributeChange.toValue)) rfl,
    list_written AttributeChange.read_toValue]
  rfl

theorem Player.read_toValue (p : Player) : Player.read p.toValue = .fits p := by
  simp only [Player.read, Player.toValue, model]
  rw [optional_here (v := .text p.name) rfl, optional_here (v := .text p.identity) rfl,
    optional_here (v := .text p.language.name) rfl, Language.read_name,
    optional_here (v := p.attributes.toValue) rfl,
    optional_here (v := p.equipment.toValue) rfl, Equipment.read_toValue,
    optional_here (v := .list (p.inventory.map Item.toValue)) rfl, list_written Item.read_toValue,
    optional_here (v := .list (p.history.map Completion.toValue)) rfl,
    list_written Completion.read_toValue]
  rfl

theorem Track.read_toValue (t : Track) : Track.read t.toValue = .fits t := by
  simp only [Track.read, Track.toValue, model]
  rw [required_here (v := .text t.name) rfl, required_here (v := t.value.toValue) rfl,
    Number.read_toValue, required_here (v := t.max.toValue) rfl, Number.read_toValue]
  rfl

theorem Change.read_toValue (c : Change) : Change.read c.toValue = .fits c := by
  simp only [Change.read, Change.toValue, model]
  rw [required_here (v := .text c.id) rfl, required_here (v := .text c.name) rfl,
    required_here (v := c.delta.toValue) rfl, Number.read_toValue]
  rfl

theorem LogEntry.read_toValue (e : LogEntry) : LogEntry.read e.toValue = .fits e := by
  have changes : nullable (list Change.read)
      (.ofOption (fun cs => .list (cs.map Change.toValue)) e.changes) = .fits e.changes :=
    nullable_written (list_written Change.read_toValue) nofun e.changes
  simp only [LogEntry.read, LogEntry.toValue, model]
  rw [required_here (v := .int e.id) rfl, required_here (v := .text e.kind.name) rfl,
    LogKind.read_name, textOption_written (o := e.actor) rfl, optional_here (v := .ofOption
      (fun cs : List Change => .list (cs.map Change.toValue)) e.changes) rfl, changes]
  rfl

/-- A state in which every key stands once. -/
structure State.KeysOnce (s : State) : Prop where
  counters : (s.counters.map Prod.fst).Nodup
  tracks : (s.tracks.map Prod.fst).Nodup
  sceneDescriptions : (s.sceneDescriptions.map Prod.fst).Nodup

theorem State.read_toValue {s : State} (once : s.KeysOnce) : State.read s.toValue = .fits s := by
  have counters : mapping Counter.read (countersValue s.counters) = .fits s.counters :=
    mapping_written Counter.read_toValue once.counters
  have tracks : mapping Track.read (tracksValue s.tracks) = .fits s.tracks :=
    mapping_written Track.read_toValue once.tracks
  have scenes := mapping_written text_written once.sceneDescriptions
  have baseline := nullable_written Attributes.read_toValue nofun s.baseline
  simp only [State.read, State.toValue, model]
  rw [optional_here (v := countersValue s.counters) rfl, counters,
    optional_here (v := tracksValue s.tracks) rfl, tracks,
    optional_here (v := .list (s.log.map LogEntry.toValue)) rfl,
    list_written LogEntry.read_toValue,
    textOption_written (o := s.route) rfl, textOption_written (o := s.nextSituation) rfl,
    optional_here (v := s.player.toValue) rfl, Player.read_toValue,
    optional_here (v := .ofOption Attributes.toValue s.baseline) rfl, baseline,
    optional_here (v := .list (s.knownTargets.map .text)) rfl, list_written text_written,
    optional_here (v := .mapping (s.sceneDescriptions.map fun d => (d.1, .text d.2))) rfl, scenes]
  rfl

end Storyworld
