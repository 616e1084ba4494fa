import Mathlib
import Storyworld.Proofs.State.Whole
import Storyworld.Proofs.Turn.Counters

/-!
A counter under caps. If every effect that writes a counter has a whole cap, none above a ceiling,
then no play lifts the counter above that ceiling: sums and literals are cut to the cap, and flags
have no height.
-/

namespace Storyworld

open Noting

/-- A flag, or a whole number that is not above the ceiling. -/
inductive Counter.Below (ceiling : Int) : Counter → Prop where
  | flag (b : Bool) : Below ceiling (.flag b)
  | number {i : Int} (le : i ≤ ceiling) : Below ceiling (.number (.int i))

/-- A whole cap that is not above the ceiling. -/
def Effect.CapBelow (e : Effect) (ceiling : Int) : Prop :=
  ∃ limit : Int, e.cap? = some (.int limit) ∧ limit ≤ ceiling

/-- An effect that adds to the counter or sets it does so under a cap below the ceiling, and it sets
it to flags and whole numbers only. Effects that write elsewhere are free. -/
structure Effect.KeepsBelow (key : String) (ceiling : Int) (e : Effect) : Prop where
  adds : ∀ delta, e.addsTo? = some (key, delta) → e.CapBelow ceiling
  sets : ∀ c, e.setsTo? = some (key, c) → c.Whole ∧ e.CapBelow ceiling

/-- The counter is there, and it is below the ceiling. -/
def HoldsBelow (key : String) (ceiling : Int) (cs : Counters) : Prop :=
  ∃ c, lookupLast key cs = some c ∧ c.Below ceiling

variable {key : String} {ceiling : Int} {e : Effect} {c : Counter} {cs ds : Counters}

theorem Counter.capped_below {limit : Int} (le : limit ≤ ceiling) (whole : c.Whole) :
    (c.capped (some (.int limit))).Below ceiling := by
  cases c with
  | flag b => exact .flag b
  | number n =>
    obtain ⟨i, rfl⟩ := whole n rfl
    simp only [Counter.capped, Storyworld.capped, Number.gt_int]
    by_cases above : limit < i
    · rw [if_pos (decide_eq_true above)]
      exact .number le
    · rw [if_neg (by simpa using above)]
      exact .number (by omega)

/-- Whatever an effect has for the counter, its cap cuts it to the ceiling. -/
theorem Effect.Brings.below (brings : e.Brings cs key c) (keeps : e.KeepsBelow key ceiling)
    (held : HoldsBelow key ceiling cs) : (c.capped e.cap?).Below ceiling := by
  cases brings with
  | sum adds known sum =>
    obtain ⟨limit, cap, le⟩ := keeps.adds _ adds
    obtain ⟨old, here, below⟩ := held
    cases known.symm.trans here
    cases below
    cases sum
    rw [cap]
    refine Counter.capped_below le fun n same => ?_
    cases same
    exact ⟨_, rfl⟩
  | literal sets =>
    obtain ⟨whole, limit, cap, le⟩ := keeps.sets _ sets
    rw [cap]
    exact Counter.capped_below le whole

/-- One effect does not lift the counter above the ceiling, whichever counter it writes. -/
theorem Effect.Leaves.below (leaves : e.Leaves cs ds) (keeps : e.KeepsBelow key ceiling)
    (held : HoldsBelow key ceiling cs) : HoldsBelow key ceiling ds := by
  cases leaves with
  | same => exact held
  | @written written c brings =>
    by_cases here : written = key
    · subst here
      have cut := brings.below keeps held
      obtain ⟨old, known, below⟩ := held
      obtain new | kept := lookupLast_putEntry_self (c.capped e.cap?) known
      · exact ⟨_, new, cut⟩
      · exact ⟨old, kept, below⟩
    · obtain ⟨old, known, below⟩ := held
      exact ⟨old, by rw [lookupLast_putEntry_ne (Ne.symm here), known], below⟩

/-- Let every effect of a scenario that adds to a counter or sets it do so under a whole cap that is
not above a ceiling, and set it to flags and whole numbers only. If the counter is a flag or a whole
number below the ceiling, it is one after every course of actions of the player, whatever their
order, their guards and their moves. -/
theorem capped_counter_stays_below {sc : Scenario} {turns : List Played} {s t : State}
    (keeps : ∀ e ∈ sc.effects, e.KeepsBelow key ceiling) (course : Course sc s turns t)
    (actions : ∀ p ∈ turns, ∃ id target success, p.move = .action id target success)
    (start : HoldsBelow key ceiling s.counters) : HoldsBelow key ceiling t.counters := by
  refine course.keeps (P := fun u => HoldsBelow key ceiling u.counters)
    (fun p mem played before => ?_) start
  obtain ⟨id, target, success, move⟩ := actions p mem
  rw [move] at played
  exact Move.action_keepsCounters (fun e inside cs ds leaves => leaves.below (keeps e inside))
    played before

/-- A cistern that fills up to ten, runs over, and leaks. Of two actions of one effect the last one
counts, so what would flood it is told and not done. -/
def cistern : Scenario where
  version := 1
  id := "cistern"
  title := "The cistern"
  description := ""
  language := .en
  theme := none
  actions := [("pour", ⟨"Pour", "Bucket", none⟩)]
  opening := ⟨"cellar", [("water", .flag false), ("spilt", .number (.int 0))], []⟩
  tracks := []
  situations := [("cellar", {
    label := "Cellar"
    description := none
    allowedActions := ["pour"]
    rules := [⟨⟨"pour", none, none, none⟩,
      [⟨[.action (.set " counters.water , 3"), .cap (.int 10), .guard "!counters.water"]⟩,
        ⟨[.cap (.int 10), .action (.add "counters.water,9")]⟩,
        ⟨[.action (.add "counters.spilt,100")]⟩,
        ⟨[.action (.set "counters.water,99"), .action (.log "It runs over.")]⟩],
      some [⟨[.action (.add "counters.water,-40"), .cap (.int (-5))]⟩]⟩]
    enterIf := none
    ending := false })]
  hints := none

theorem cistern_keepsBelow : ∀ e ∈ cistern.effects, e.KeepsBelow "water" 10 := by
  have effects : cistern.effects = [
      ⟨[.action (.set " counters.water , 3"), .cap (.int 10), .guard "!counters.water"]⟩,
      ⟨[.cap (.int 10), .action (.add "counters.water,9")]⟩,
      ⟨[.action (.add "counters.spilt,100")]⟩,
      ⟨[.action (.set "counters.water,99"), .action (.log "It runs over.")]⟩,
      ⟨[.action (.add "counters.water,-40"), .cap (.int (-5))]⟩] := rfl
  have spilt : Effect.addsTo? ⟨[.action (.add "counters.spilt,100")]⟩ = some ("spilt", 100) := by
    cbv
  have set : Effect.setsTo? ⟨[.action (.set " counters.water , 3"), .cap (.int 10),
      .guard "!counters.water"]⟩ = some ("water", .number (.int 3)) := by
    cbv
  intro e mem
  simp only [effects, List.mem_cons, List.not_mem_nil, or_false] at mem
  obtain rfl | rfl | rfl | rfl | rfl := mem
  · refine ⟨fun delta adds => ?_, fun c sets => ?_⟩
    · cases adds
    · cases set.symm.trans sets
      exact ⟨fun n same => by cases same; exact ⟨3, rfl⟩, 10, rfl, by decide⟩
  · refine ⟨fun delta adds => ⟨10, rfl, by decide⟩, fun c sets => ?_⟩
    cases sets
  · refine ⟨fun delta adds => ?_, fun c sets => ?_⟩
    · have other := spilt.symm.trans adds
      simp at other
    · cases sets
  · refine ⟨fun delta adds => ?_, fun c sets => ?_⟩
    · cases adds
    · cases sets
  · refine ⟨fun delta adds => ⟨-5, rfl, by decide⟩, fun c sets => ?_⟩
    cases sets

/-- The first bucket finds a flag and sets it, the second one fills the cistern, then it leaks. -/
theorem capped_counter_stays_below_cistern :
    ∃ turns t, (∀ e ∈ cistern.effects, e.KeepsBelow "water" 10) ∧
      Course cistern (cistern.start none) turns t ∧
      (∀ p ∈ turns, ∃ id target success, p.move = .action id target success) ∧
      HoldsBelow "water" 10 (cistern.start none).counters ∧
      turns.map (fun p => lookupLast "water" p.result.state.counters) =
        [some (.number (.int 10)), some (.number (.int (-30)))] ∧
      HoldsBelow "water" 10 t.counters := by
  let filled : State :=
    { cistern.start none with
      counters := [("water", .number (.int 10)), ("spilt", .number (.int 100))] }
  let drained : State :=
    { cistern.start none with
      counters := [("water", .number (.int (-30))), ("spilt", .number (.int 100))] }
  have poured : (Move.play cistern Session.noon (cistern.start none)
      (.action "pour" none true)).result =
        .ok ⟨filled, ["It runs over."], some 0, false⟩ := by
    rw [Move.play, result_adapt]
    cbv
  have leaked : (Move.play cistern Session.noon filled (.action "pour" none false)).result =
      .ok ⟨drained, [], some 0, false⟩ := by
    rw [Move.play, result_adapt]
    cbv
  have course : Course cistern (cistern.start none)
      [⟨_, Session.noon, .action "pour" none true, _⟩,
        ⟨_, Session.noon, .action "pour" none false, _⟩] drained :=
    .cons poured (.cons leaked (.nil _))
  have actions : ∀ p ∈ [Played.mk (cistern.start none) Session.noon (.action "pour" none true)
        ⟨filled, ["It runs over."], some 0, false⟩,
      ⟨filled, Session.noon, .action "pour" none false, ⟨drained, [], some 0, false⟩⟩],
      ∃ id target success, p.move = .action id target success := by
    intro p mem
    simp only [List.mem_cons, List.not_mem_nil, or_false] at mem
    obtain rfl | rfl := mem <;> exact ⟨_, _, _, rfl⟩
  have start : HoldsBelow "water" 10 (cistern.start none).counters := ⟨_, rfl, .flag false⟩
  exact ⟨_, _, cistern_keepsBelow, course, actions, start, rfl,
    capped_counter_stays_below cistern_keepsBelow course actions start⟩

end Storyworld
