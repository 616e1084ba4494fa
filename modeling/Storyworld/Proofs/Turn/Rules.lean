import Mathlib
import Storyworld.Proofs.Turn.Course

/-!
The rules of a situation and the turns in it. Only the situation in which a turn begins is asked for
its rules; the end of the turn looks at none. The scan of the rules stops at the first one that fires,
so the rules behind it might be any others.
-/

namespace Storyworld

open Noting

def Situation.mapRules (f : List Rule → List Rule) (t : Situation) : Situation :=
  { t with rules := f t.rules }

/-- A scenario with other rules, which depend on the situation and on the rules it has. -/
def Scenario.mapRules (f : String → List Rule → List Rule) (sc : Scenario) : Scenario :=
  { sc with situations := sc.situations.map fun e => (e.1, e.2.mapRules (f e.1)) }

/-- A scenario with these rules in one situation. -/
def Scenario.withRules (id : String) (rules : List Rule) : Scenario → Scenario :=
  mapRules fun name old => if name = id then rules else old

variable {sc : Scenario} {situation : Situation} {s : State} {actionId : String}
  {target : Option String} {r : Rule} {before after others rules : List Rule}

theorem Scenario.situation?_mapRules (f : String → List Rule → List Rule) (sc : Scenario)
    (id : String) :
    (sc.mapRules f).situation? id = (sc.situation? id).map (Situation.mapRules (f id)) :=
  lookupLast_mapKeyed (fun name => Situation.mapRules (f name)) id sc.situations

theorem Scenario.situation?_withRules {id : String} (here : sc.situation? id = some situation)
    (rules : List Rule) :
    (sc.withRules id rules).situation? id = some (situation.mapRules fun _ => rules) := by
  rw [withRules, situation?_mapRules, here, Option.map_some]
  simp [Situation.mapRules]

theorem firstEntered_mapRules (f : String → List Rule → List Rule)
    (situations : List (String × Situation)) (s : State) :
    firstEntered (situations.map fun e => (e.1, e.2.mapRules (f e.1))) s =
      firstEntered situations s := by
  induction situations with
  | nil => rfl
  | cons e rest ih =>
    simp only [List.map_cons, firstEntered, ih]
    rfl

namespace State

/-- The end of a turn looks at no rules. -/
theorem resolve_mapRules (f : String → List Rule → List Rule) (sc : Scenario) (now : Timestamp)
    (s : State) : s.resolve (sc.mapRules f) now = s.resolve sc now := by
  have entered : (sc.mapRules f).autoEntered s = sc.autoEntered s :=
    firstEntered_mapRules f sc.situations s
  have pending : s.pending? (sc.mapRules f) = s.pending? sc := by
    unfold pending?
    simp only [Scenario.situation?_mapRules, Option.isSome_map]
  have record (t : State) : t.recordEnding (sc.mapRules f) now = t.recordEnding sc now := by
    unfold recordEnding
    rw [Scenario.situation?_mapRules]
    cases sc.situation? t.situation <;> rfl
  unfold resolve
  simp only [entered, pending, record]

end State

/-! The scan -/

/-- Rules that do not fire are passed by. -/
theorem result_firstFiring_append
    (silent : ∀ q ∈ before, (q.trigger.fires actionId target s).result = .ok false) (i : Nat) :
    (firstFiring actionId target s i (before ++ rules)).result =
      (firstFiring actionId target s (i + before.length) rules).result := by
  induction before generalizing i with
  | nil => rfl
  | cons q rest ih =>
    obtain ⟨first, later⟩ := List.forall_mem_cons.1 silent
    rw [List.cons_append, result_firstFiring_cons, first, List.length_cons, Nat.add_comm rest.length,
      ← Nat.add_assoc]
    exact ih later (i + 1)

/-- What stands behind a rule that fires is not looked at, whatever stands in front of it. -/
theorem firstFiring_behind (fires : (r.trigger.fires actionId target s).result = .ok true)
    (i : Nat) : firstFiring actionId target s i (before ++ r :: others) =
      firstFiring actionId target s i (before ++ r :: after) := by
  induction before generalizing i with
  | nil =>
    refine bind_congr_ok (steady_fires ..) fun fired given => ?_
    cases given.symm.trans fires
    rfl
  | cons q rest ih =>
    refine bind_congr_ok (steady_fires ..) fun fired _ => ?_
    cases fired with
    | true => rfl
    | false => exact ih (i + 1)

namespace State

theorem act_withRules (here : sc.situation? s.situation = some situation)
    (same : firstFiring actionId target s 0 rules = situation.ruleFor actionId target s)
    (now : Timestamp) (success : Bool) :
    s.act (sc.withRules s.situation rules) now actionId target success =
      s.act sc now actionId target success := by
  have found : (situation.mapRules fun _ => rules).ruleFor actionId target s =
      situation.ruleFor actionId target s := same
  unfold act
  rw [Scenario.situation?_withRules here, here]
  simp only [answer, found, finish, Scenario.withRules, resolve_mapRules]

/-- Rules behind the first that fires are irrelevant. Where no rule in front of one fires and that one
does, the turn runs the effects of that rule, and it is the same turn with any other rules behind it,
those included that cannot be read. Where no rule fires, the turn is its end alone. -/
theorem later_rules_are_irrelevant (here : sc.situation? s.situation = some situation)
    (now : Timestamp) (actionId : String) (target : Option String) (success : Bool) :
    (∀ before r after, situation.rules = before ++ r :: after →
      (∀ q ∈ before, (q.trigger.fires actionId target s).result = .ok false) →
      (r.trigger.fires actionId target s).result = .ok true →
        (s.act sc now actionId target success).result =
            ((s.applyEffects true (r.effectsFor success)).result >>= fun p =>
              (finish sc now (some before.length) p).result) ∧
          ∀ others, s.act (sc.withRules s.situation (before ++ r :: others)) now actionId target
            success = s.act sc now actionId target success) ∧
      ((∀ q ∈ situation.rules, (q.trigger.fires actionId target s).result = .ok false) →
        (s.act sc now actionId target success).result =
          (s.resolve sc now).result.map fun p => ⟨p.1, [], none, p.2⟩) := by
  refine ⟨fun before r after rules silent fires => ⟨?_, fun others => ?_⟩, fun silent => ?_⟩
  · have fired : (situation.ruleFor actionId target s).result = .ok (some (before.length, r)) := by
      rw [Situation.ruleFor, rules, result_firstFiring_append silent, result_firstFiring_cons, fires,
        Nat.zero_add]
      rfl
    exact result_act_answered here fired now success
  · refine act_withRules here ?_ now success
    rw [Situation.ruleFor, rules]
    exact firstFiring_behind fires 0
  · have none : (situation.ruleFor actionId target s).result = .ok none := by
      have passed : (firstFiring actionId target s 0 (situation.rules ++ [])).result = .ok none :=
        result_firstFiring_append silent 0
      rwa [List.append_nil] at passed
    rw [result_act_defined here, result_answer, none]
    exact result_finish sc now _ (s, [])

end State

/-- A blow that is not struck before the iron is hot. -/
def earlyBlow : Rule :=
  ⟨⟨"strike", none, none, some "counters.heat >= 2"⟩, [⟨[.action (.log "It bends.")]⟩], none⟩

def dullBlow : Rule :=
  ⟨⟨"strike", none, some "r.n", none⟩, [⟨[.action (.add "counters.blows,1")]⟩], none⟩

/-- Neither its pattern nor its condition can be read. -/
def garbledBlow : Rule :=
  ⟨⟨"strike", some "(", none, some "&& heat"⟩, [⟨[.action (.set "route,ruin")]⟩], none⟩

def forge : Situation where
  label := "Forge"
  description := none
  allowedActions := ["strike"]
  rules := [earlyBlow, dullBlow]
  enterIf := none
  ending := false

def smithy : Scenario where
  version := 1
  id := "smithy"
  title := "The smithy"
  description := ""
  language := .en
  theme := none
  actions := [("strike", ⟨"Strike", "Hammer", none⟩)]
  opening := ⟨"forge", [("heat", .number (.int 0)), ("blows", .number (.int 0))], []⟩
  tracks := []
  situations := [("forge", forge)]
  hints := none

def smith : State where
  situation := "forge"
  counters := [("heat", .number (.int 0)), ("blows", .number (.int 0))]
  tracks := []
  log := []
  route := none
  nextSituation := none
  player := .newcomer .en
  baseline := none
  knownTargets := []
  sceneDescriptions := []

theorem later_rules_are_irrelevant_smithy :
    (earlyBlow.trigger.fires "strike" (some "iron") smith).result = .ok false ∧
      (dullBlow.trigger.fires "strike" (some "iron") smith).result = .ok true ∧
      smith.act (smithy.withRules "forge" [earlyBlow, dullBlow, garbledBlow])
          ⟨2024, 5, 1, 12, 0, 0, 0, none⟩ "strike" (some "iron") true =
        smith.act smithy ⟨2024, 5, 1, 12, 0, 0, 0, none⟩ "strike" (some "iron") true ∧
      (smith.act smithy ⟨2024, 5, 1, 12, 0, 0, 0, none⟩ "rest" none true).result =
        (smith.resolve smithy ⟨2024, 5, 1, 12, 0, 0, 0, none⟩).result.map fun p =>
          ⟨p.1, [], none, p.2⟩ := by
  have early : (earlyBlow.trigger.fires "strike" (some "iron") smith).result = .ok false := by cbv
  have dull : (dullBlow.trigger.fires "strike" (some "iron") smith).result = .ok true := by cbv
  have here : smithy.situation? smith.situation = some forge := rfl
  have struck := (State.later_rules_are_irrelevant here ⟨2024, 5, 1, 12, 0, 0, 0, none⟩ "strike"
    (some "iron") true).1 [earlyBlow] dullBlow [] rfl (List.forall_mem_singleton.2 early) dull
  have rested := (State.later_rules_are_irrelevant here ⟨2024, 5, 1, 12, 0, 0, 0, none⟩ "rest"
    none true).2
  refine ⟨early, dull, struck.2 [garbledBlow], rested ?_⟩
  simp [forge, earlyBlow, dullBlow, Trigger.fires]

end Storyworld
