import Mathlib
import Storyworld.Proofs.Check.Document
import Storyworld.State.Start

/-!
Documents that the check lets through never misfire in play. The check looks at the document only and
play at the state only; they meet in the keys of counters and of tracks, which play never changes.
-/

namespace Storyworld

open Noting

theorem notices_ofExcept {ε α : Type} (x : Except ε α) : (ofExcept x).outcome.2 = [] := by
  cases x <;> rfl

namespace State

variable {s : State} {cap : Option Number}

theorem doAdd_quiet {raw : String}
    (h : (Action.add raw).Aims (s.counters.map Prod.fst) (s.tracks.map Prod.fst)) :
    (s.doAdd raw cap).outcome.2 = [] := by
  obtain ⟨path, delta, read, ⟨area, -⟩ | ⟨area, -⟩⟩ := h
  · simp only [doAdd, read, area, if_true]
    exact notices_ofExcept _
  · simp only [doAdd, read, area, String.reduceEq, if_false, if_true]
    exact notices_ofExcept _

theorem doSet_quiet {raw : String}
    (h : (Action.set raw).Aims (s.counters.map Prod.fst) (s.tracks.map Prod.fst)) :
    (s.doSet raw cap).outcome.2 = [] := by
  obtain ⟨path, v, read, place⟩ := h
  simp only [doSet, read]
  split
  · rfl
  · rename_i notNext
    split
    · rfl
    · rename_i notRoute
      obtain ⟨⟨area, known⟩, value⟩ := (place.resolve_left notNext).resolve_left notRoute
      obtain ⟨old, here⟩ := exists_lookupLast known
      obtain ⟨c, value⟩ := Option.isSome_iff_exists.1 value
      simp only [area, if_true, setCounterTo, here, value]
      rfl

theorem doTrack_quiet {raw : String}
    (h : (Action.track raw).Aims (s.counters.map Prod.fst) (s.tracks.map Prod.fst)) :
    (s.doTrack raw cap).outcome.2 = [] := by
  obtain ⟨key, delta, read, -⟩ := h
  simp only [doTrack, read]
  exact notices_ofExcept _

/-- An action that aims at what is there leaves no notice. -/
theorem doAction_quiet {a : Action}
    (h : a.Aims (s.counters.map Prod.fst) (s.tracks.map Prod.fst)) :
    (s.doAction a cap).outcome.2 = [] := by
  cases a with
  | add raw => exact doAdd_quiet h
  | set raw => exact doSet_quiet h
  | track raw => exact doTrack_quiet h
  | _ => rfl

/-- An action of the player comes to an effect of the rule that answers it, in the draft that the
effects in front have made of the state. -/
inductive ComesTo (sc : Scenario) (s : State) (actionId : String) (target : Option String)
    (success : Bool) (e : Effect) : State → Prop where
  | intro {situation : Situation} {i : Nat} {r : Rule} {before after : List Effect} {draft : State}
      {lines : List String} (here : sc.situation? s.situation = some situation)
      (fired : (situation.ruleFor actionId target s).result = .ok (some (i, r)))
      (place : r.effectsFor success = before ++ e :: after)
      (done : (s.applyEffects true before).result = .ok (draft, lines)) :
      ComesTo sc s actionId target success e draft

/-- The conditions that an action of the player comes to: those of rules in front of which none has
fired, if the action and the target fit; the guards of effects; and, when all effects are done, those
of situations in front of which none is entered. -/
inductive Weighs (sc : Scenario) (s : State) (actionId : String) (target : Option String)
    (success : Bool) (c : String) : Prop where
  | require {situation : Situation} {before after : List Rule} {r : Rule}
      (here : sc.situation? s.situation = some situation)
      (place : situation.rules = before ++ r :: after)
      (first : (firstFiring actionId target s 0 before).result = .ok none)
      (action : r.trigger.actionId = actionId)
      (whole : (targetFits r.trigger.targetPattern target matchesWhole).result = .ok true)
      (text : (targetFits r.trigger.textPattern target occursIn).result = .ok true)
      (written : r.trigger.require = some c) : Weighs sc s actionId target success c
  | guard {e : Effect} {draft : State} (comes : ComesTo sc s actionId target success e draft)
      (written : e.guard? = some c) : Weighs sc s actionId target success c
  | entry {situation next : Situation} {rule : Option Nat} {p : State × List String}
      {before after : List (String × Situation)} {id : String}
      (here : sc.situation? s.situation = some situation)
      (answered : (s.answer situation actionId target success).result = .ok (rule, p))
      (place : sc.situations = before ++ (id, next) :: after)
      (first : (firstEntered before p.1).result = .ok none)
      (written : next.enterIf = some c) : Weighs sc s actionId target success c

variable {sc : Scenario} {actionId : String} {target : Option String} {success : Bool}

/-- The effect is one of the scenario's, and the draft has the keys of the state. -/
theorem ComesTo.cases {e : Effect} {draft : State}
    (h : ComesTo sc s actionId target success e draft) :
    e ∈ sc.effects ∧ draft.counters.map Prod.fst = s.counters.map Prod.fst ∧
      draft.tracks.map Prod.fst = s.tracks.map Prod.fst := by
  obtain @⟨situation, i, r, before, after, _, lines, here, fired, place, done⟩ := h
  have inside : e ∈ r.effectsFor success := by simp [place]
  have altered : s.AltersBy (fun _ => True) draft :=
    applyEffects_alters (fun _ _ => trivial) done
  refine ⟨?_, altered.same Alters.counterKeys, altered.same Alters.trackKeys⟩
  exact Scenario.mem_effects here (firstFiring_mem fired) e inside

theorem Weighs.parses (sound : sc.Sound) {c : String}
    (h : Weighs sc s actionId target success c) : Condition.Parses c := by
  cases h with
  | require here place first action whole text written =>
    exact sound.require _ _ (lookupLast_mem here) _ (by simp [place]) c written
  | guard comes written => exact (sound.effects _ comes.cases.1).guard c written
  | @entry situation next rule p before after id here answered place first written =>
    have inside : (id, next) ∈ sc.situations := by simp [place]
    exact sound.entry id next inside c written

end State

/-- Let a document be checked without an error and be read as a scenario with amounts that are not too
long. After any turns from its start, whatever action is tried: every effect that it comes to and
whose guard lets it run has an action that can be read, aims at what is there and leaves no notice,
and every condition that it comes to parses. -/
theorem clean_document_never_misfires {doc : Entries} {issues : List Check.Issue} {sc : Scenario}
    {player : Option Player} {turns : List Played} {s : State}
    (checked : Check.document doc = .ok issues) (clean : Check.hasErrors issues = false)
    (read : Scenario.read (.mapping doc) = .fits sc)
    (short : ∀ e ∈ sc.effects, ∀ a, e.action? = some a → a.ShortAmount)
    (course : Course sc (sc.start player) turns s) (actionId : String) (target : Option String)
    (success : Bool) :
    (∀ e draft, State.ComesTo sc s actionId target success e draft →
        (draft.allows e.guard?).result = .ok true →
        ∃ a, e.action? = some a ∧
          a.Aims (draft.counters.map Prod.fst) (draft.tracks.map Prod.fst) ∧
          (draft.doAction a e.cap?).outcome.2 = []) ∧
      ∀ c, State.Weighs sc s actionId target success c → Condition.Parses c := by
  have sound : sc.Sound := Check.document_sound ⟨issues, checked, clean⟩ read
  have keys := course.keys
  have declared : (sc.start player).tracks.map Prod.fst = sc.tracks.map Prod.fst := by
    simp [Scenario.start]
  refine ⟨fun e draft comes _ => ?_, fun c weighed => weighed.parses sound⟩
  obtain ⟨mem, counters, tracks⟩ := comes.cases
  obtain ⟨a, acts, aims⟩ := (sound.effects e mem).aims (short e mem)
  have aims : a.Aims (draft.counters.map Prod.fst) (draft.tracks.map Prod.fst) := by
    rw [counters, tracks, keys.1, keys.2, declared]
    exact aims
  exact ⟨a, acts, aims, State.doAction_quiet aims⟩

/-- A mill whose barn is entered as soon as there is a way north. -/
def mill : Entries := [
    ("id", .text "mill"),
    ("title", .text "The mill"),
    ("language", .text "en"),
    ("actions", .mapping [("grind", .mapping [("label", .text "Grind"), ("icon", .text "Wheel")])]),
    ("initial", .mapping [("situation", .text "yard"), ("counters", .mapping [("sacks", .int 2)])]),
    ("tracks", .mapping [
      ("dust", .mapping [("name", .text "Dust"), ("value", .int 0), ("max", .int 5)])]),
    ("situations", .mapping [
      ("yard", .mapping [
        ("label", .text "Yard"),
        ("on_action", .list [.mapping [
          ("when", .mapping [("actionId", .text "grind"), ("require", .text "!route")]),
          ("do", .list [.mapping [("set", .text "route, north")]])]])]),
      ("barn", .mapping [
        ("label", .text "Barn"),
        ("on_action", .list [.mapping [
          ("when", .mapping [("actionId", .text "grind")]),
          ("do", .list [
            .mapping [("track", .text "dust,+٣")],
            .mapping [("add", .text " counters.sacks , -1 "), ("if", .text "route")]])]]),
        ("auto_enter_if", .text "route"),
        ("ending", .bool true)])])]

/-- The effect that costs a sack. -/
def pay : Effect :=
  ⟨[.action (.add " counters.sacks , -1 "), .guard "route"]⟩

def millScenario : Scenario where
  version := 1
  id := "mill"
  title := "The mill"
  description := ""
  language := .en
  theme := none
  actions := [("grind", ⟨"Grind", "Wheel", none⟩)]
  opening := ⟨"yard", [("sacks", .number (.int 2))], []⟩
  tracks := [("dust", ⟨"Dust", 0, 5⟩)]
  situations := [
    ("yard", {
      label := "Yard"
      description := none
      allowedActions := []
      rules := [⟨⟨"grind", none, none, some "!route"⟩, [⟨[.action (.set "route, north")]⟩], none⟩]
      enterIf := none
      ending := false }),
    ("barn", {
      label := "Barn"
      description := none
      allowedActions := []
      rules := [⟨⟨"grind", none, none, none⟩, [⟨[.action (.track "dust,+٣")]⟩, pay], none⟩]
      enterIf := some "route"
      ending := true })]
  hints := none

theorem mill_short {e : Effect} (mem : e ∈ millScenario.effects) {a : Action}
    (acts : e.action? = some a) : a.ShortAmount := by
  have effects : millScenario.effects =
      [⟨[.action (.set "route, north")]⟩, ⟨[.action (.track "dust,+٣")]⟩, pay] := rfl
  have dust : splitChange? "dust,+٣" = some (['d', 'u', 's', 't'], ['+', '٣']) := rfl
  have sacks : splitChange? " counters.sacks , -1 " = some ("counters.sacks".toList, ['-', '1']) :=
    rfl
  simp only [effects, List.mem_cons, List.not_mem_nil, or_false] at mem
  obtain rfl | rfl | rfl := mem
  · cases acts
    trivial
  · cases acts
    intro path amount cut
    cases dust.symm.trans cut
    decide
  · cases acts
    intro path amount cut
    cases sacks.symm.trans cut
    decide

/-- In the barn, dust is raised first, and then the guard is weighed and a sack is paid. -/
theorem clean_document_never_misfires_mill :
    ∃ turns s draft, Check.document mill = .ok [] ∧ Check.hasErrors [] = false ∧
      Scenario.read (.mapping mill) = .fits millScenario ∧
      (∀ e ∈ millScenario.effects, ∀ a, e.action? = some a → a.ShortAmount) ∧
      Course millScenario (millScenario.start none) turns s ∧ s.situation = "barn" ∧
      State.ComesTo millScenario s "grind" none true pay draft ∧
      (draft.allows pay.guard?).result = .ok true ∧
      (∃ a, pay.action? = some a ∧
        a.Aims (draft.counters.map Prod.fst) (draft.tracks.map Prod.fst) ∧
        (draft.doAction a pay.cap?).outcome.2 = []) ∧ Condition.Parses "route" := by
  have clean : Check.document mill = .ok [] := by decide +kernel
  have read : Scenario.read (.mapping mill) = .fits millScenario := by cbv
  have played : ∃ r, (Move.play millScenario Session.noon (millScenario.start none)
        (.action "grind" none true)).result = .ok r ∧ r.state.situation = "barn" ∧
      ∃ draft, State.ComesTo millScenario r.state "grind" none true pay draft ∧
        (draft.allows pay.guard?).result = .ok true := by
    refine ⟨?r, ?done, ?later⟩
    case done =>
      rw [Move.play, Noting.result_adapt]
      cbv
      rfl
    case later =>
      have place : [⟨[.action (.track "dust,+٣")]⟩, pay] =
          [⟨[.action (.track "dust,+٣")]⟩] ++ pay :: [] := rfl
      refine ⟨rfl, _, .intro (i := 0) rfl rfl place rfl, ?allowed⟩
      case allowed => cbv
  obtain ⟨r, played, barn, draft, comes, allowed⟩ := played
  have course : Course millScenario (millScenario.start none) [⟨_, Session.noon, _, r⟩] r.state :=
    .cons played (.nil _)
  obtain ⟨never, parses⟩ := clean_document_never_misfires clean rfl read
    (fun e mem a acts => mill_short mem acts) course "grind" none true
  exact ⟨_, _, draft, clean, rfl, read, fun e mem a acts => mill_short mem acts, course, barn, comes,
    allowed, never pay draft comes allowed, parses "route" (.guard comes rfl)⟩

end Storyworld
