import Storyworld.Proofs.Check.Play
import Storyworld.Proofs.Turn.Counters

/-!
Additions to counters that hold a flag. Such an addition is ignored without a notice. The check asks
of an addition that its counter is there, but not what the counter holds, so it lets such additions
through. A counter comes to hold a flag in two ways only: the opening gives it one, or an effect of
the scenario sets it to one.
-/

namespace Storyworld

open Noting

/-- A counter that holds a flag at the opening, or that an effect of the scenario sets to one. -/
def Scenario.Flagged (sc : Scenario) (key : String) : Prop :=
  (∃ b, (key, Counter.flag b) ∈ sc.opening.counters) ∨
    ∃ e ∈ sc.effects, ∃ b, e.setsTo? = some (key, .flag b)

/-- What is added was read, so it does not have too many digits. -/
theorem Action.shortAmount_of_addsTo? {a : Action} {p : String × Int} (adds : a.addsTo? = some p) :
    a.ShortAmount := by
  cases a with
  | add raw =>
    obtain ⟨⟨path, delta⟩, read, -⟩ := Option.bind_eq_some_iff.1 adds
    obtain ⟨⟨left, right⟩, cut, read⟩ := Option.bind_eq_some_iff.1 read
    obtain ⟨n, whole, -⟩ := Option.map_eq_some_iff.1 read
    intro path' amount cut'
    cases cut.symm.trans cut'
    exact Check.length_of_readWhole? whole
  | _ => cases adds

/-- An addition that aims at what is there aims at a counter that is there. -/
theorem Action.Aims.mem_counters {a : Action} {counters tracks : List String} {key : String}
    {delta : Int} (aims : a.Aims counters tracks) (adds : a.addsTo? = some (key, delta)) :
    key ∈ counters := by
  cases a with
  | add raw =>
    obtain ⟨⟨path, amount⟩, read, leads⟩ := Option.bind_eq_some_iff.1 adds
    obtain ⟨key', found, same⟩ := Option.map_eq_some_iff.1 leads
    cases same
    obtain ⟨area, rfl⟩ := counterAt?_eq_some found
    obtain ⟨path', amount', read', ⟨-, known⟩ | ⟨other, -⟩⟩ := aims
    · cases read.symm.trans read'
      exact known
    · cases read.symm.trans read'
      simp [area] at other
  | _ => cases adds

/-- A sound effect that adds to a counter aims at one that is there. -/
theorem Effect.Sound.mem_counters {e : Effect} {counters tracks : List String} {key : String}
    {delta : Int} (sound : e.Sound counters tracks) (adds : e.addsTo? = some (key, delta)) :
    key ∈ counters := by
  obtain ⟨a, does, added⟩ := Option.bind_eq_some_iff.1 adds
  have short (b : Action) (other : e.action? = some b) : b.ShortAmount := by
    cases does.symm.trans other
    exact Action.shortAmount_of_addsTo? added
  obtain ⟨b, other, aims⟩ := sound.aims short
  cases does.symm.trans other
  exact aims.mem_counters added

/-- A flag comes to a counter as a literal. -/
theorem Effect.Brings.setsTo?_flag {e : Effect} {cs : Counters} {key : String} {b : Bool}
    (brings : e.Brings cs key (.flag b)) : e.setsTo? = some (key, .flag b) := by
  cases brings with
  | literal sets => exact sets

theorem Counter.capped_eq_flag {cap : Option Number} {c : Counter} {b : Bool} :
    c.capped cap = .flag b ↔ c = .flag b := by
  cases c with
  | flag b' => rfl
  | number n => exact ⟨(nomatch ·), (nomatch ·)⟩

namespace State

variable {sc : Scenario} {s t : State}

/-- Only counters that may hold a flag hold one. -/
def FlagsWithin (sc : Scenario) (s : State) : Prop :=
  ∀ key b, (key, Counter.flag b) ∈ s.counters → sc.Flagged key

/-- A flag that an effect leaves was there, or it is what the effect sets. -/
theorem flagsWithin_leaves {e : Effect} {cs ds : Counters} (mem : e ∈ sc.effects)
    (leaves : e.Leaves cs ds) (within : ∀ key b, (key, Counter.flag b) ∈ cs → sc.Flagged key) :
    ∀ key b, (key, Counter.flag b) ∈ ds → sc.Flagged key := by
  intro key b inside
  cases leaves with
  | written brings =>
    obtain ⟨rfl, same⟩ | old := mem_putEntry inside
    · obtain rfl := Counter.capped_eq_flag.1 same.symm
      exact .inr ⟨e, mem, b, brings.setsTo?_flag⟩
    · exact within key b old
  | same => exact within key b inside

theorem play_flags {now : Timestamp} {id : String} {target : Option String} {success : Bool}
    {r : TurnResult} (within : s.FlagsWithin sc)
    (h : ((Move.action id target success).play sc now s).result = .ok r) :
    r.state.FlagsWithin sc :=
  Move.action_keepsCounters (P := fun cs => ∀ key b, (key, Counter.flag b) ∈ cs → sc.Flagged key)
    (fun _ mem _ _ => flagsWithin_leaves mem) h within

theorem ComesTo.flags {id : String} {target : Option String} {success : Bool} {e : Effect}
    {draft : State} (comes : ComesTo sc s id target success e draft) (within : s.FlagsWithin sc) :
    draft.FlagsWithin sc := by
  obtain @⟨situation, i, r, before, after, _, lines, here, fired, place, done⟩ := comes
  refine applyEffects_keepsCounters
    (P := fun cs => ∀ key b, (key, Counter.flag b) ∈ cs → sc.Flagged key)
    (fun f mem _ _ => flagsWithin_leaves ?_) done within
  have inside : f ∈ r.effectsFor success := by simp [place, mem]
  exact Scenario.mem_effects here (firstFiring_mem fired) f inside

theorem addToCounter_flag {key : String} {b : Bool} (delta : Int) (cap : Option Number)
    (known : lookupLast key s.counters = some (.flag b)) :
    s.addToCounter key delta cap = .ok s := by
  rw [addToCounter, known]

/-- An effect that adds to a counter with a flag in it does no more than to weigh its guard. -/
theorem applyEffect_on_flag {narrative : Bool} {e : Effect} {key : String} {delta : Int} {b : Bool}
    (adds : e.addsTo? = some (key, delta)) (known : lookupLast key s.counters = some (.flag b)) :
    s.applyEffect narrative e = (fun _ => (s, [])) <$> s.allows e.guard? := by
  rw [applyEffect_of_adds adds, addToCounter_flag delta e.cap? known, map_eq_pure_bind]
  congr 1
  funext allowed
  cases allowed <;> rfl

end State

/-- Let a document be checked without an error and be read as a scenario. After any turns for
actions of the player from its start, whatever action is tried: when an effect that adds to a
counter is come to and its guard lets it run, the counter is there. It holds a number, and the sum
is written; or it holds a flag, and the effect is ignored without a notice. It holds a flag only if
the opening gives it one, or an effect of the scenario sets it to one. -/
theorem clean_addition_ignored_only_on_flag {doc : Entries} {issues : List Check.Issue}
    {sc : Scenario} {player : Option Player} {turns : List Played} {s draft : State}
    {actionId : String} {target : Option String} {success : Bool} {e : Effect} {key : String}
    {delta : Int} (checked : Check.document doc = .ok issues)
    (clean : Check.hasErrors issues = false) (read : Scenario.read (.mapping doc) = .fits sc)
    (course : Course sc (sc.start player) turns s)
    (actions : ∀ p ∈ turns, ∃ id target success, p.move = .action id target success)
    (comes : State.ComesTo sc s actionId target success e draft)
    (allowed : (draft.allows e.guard?).result = .ok true)
    (adds : e.addsTo? = some (key, delta)) :
    (∃ n, lookupLast key draft.counters = some (.number n) ∧
        (draft.applyEffect true e).result = (n.add (.int delta)).map fun v =>
          (draft.setCounter key (.number (capped e.cap? v)), [])) ∨
      ∃ b, lookupLast key draft.counters = some (.flag b) ∧ sc.Flagged key ∧
        draft.applyEffect true e = (fun _ => (draft, [])) <$> draft.allows e.guard? := by
  obtain ⟨mem, counters, -⟩ := comes.cases
  have sound : e.Sound (sc.opening.counters.map Prod.fst) (sc.tracks.map Prod.fst) :=
    (Check.document_sound ⟨issues, checked, clean⟩ read).effects e mem
  have known : key ∈ draft.counters.map Prod.fst := by
    rw [counters, course.keys.1]
    exact sound.mem_counters adds
  have within : draft.FlagsWithin sc := by
    have start : (sc.start player).FlagsWithin sc := fun key b inside => .inl ⟨b, inside⟩
    refine comes.flags (course.keeps (fun p mem played before => ?_) start)
    obtain ⟨id, target, success, move⟩ := actions p mem
    rw [move] at played
    exact State.play_flags before played
  obtain ⟨c, holds⟩ := exists_lookupLast known
  cases c with
  | number n =>
    refine .inl ⟨n, holds, ?_⟩
    rw [State.result_applyEffect_adds adds true allowed, State.addToCounter_number _ _ holds]
    cases n.add (.int delta) <;> rfl
  | flag b =>
    exact .inr ⟨b, holds, within key b (lookupLast_mem holds), State.applyEffect_on_flag adds holds⟩

/-- A lantern whose light is a flag from the start, and whose oil becomes one. -/
def lantern : Entries := [
    ("id", .text "lantern"),
    ("title", .text "The lantern"),
    ("language", .text "en"),
    ("actions", .mapping [
      ("trim", .mapping [("label", .text "Trim"), ("icon", .text "Wick")]),
      ("pour", .mapping [("label", .text "Pour"), ("icon", .text "Can")])]),
    ("initial", .mapping [
      ("situation", .text "shed"),
      ("counters", .mapping [("lit", .bool true), ("oil", .int 2)])]),
    ("tracks", .mapping []),
    ("situations", .mapping [
      ("shed", .mapping [
        ("label", .text "Shed"),
        ("on_action", .list [
          .mapping [
            ("when", .mapping [("actionId", .text "trim")]),
            ("do", .list [
              .mapping [("set", .text "counters.oil,true")],
              .mapping [("add", .text "counters.lit,1")]])],
          .mapping [
            ("when", .mapping [("actionId", .text "pour")]),
            ("do", .list [
              .mapping [("add", .text "counters.oil,1"), ("if", .text "counters.lit")]])]]),
        ("ending", .bool true)])])]

/-- The effect that would make the light brighter. -/
def kindle : Effect :=
  ⟨[.action (.add "counters.lit,1")]⟩

/-- The effect that fills up the oil while the lantern burns. -/
def refill : Effect :=
  ⟨[.action (.add "counters.oil,1"), .guard "counters.lit"]⟩

def lanternScenario : Scenario where
  version := 1
  id := "lantern"
  title := "The lantern"
  description := ""
  language := .en
  theme := none
  actions := [("trim", ⟨"Trim", "Wick", none⟩), ("pour", ⟨"Pour", "Can", none⟩)]
  opening := ⟨"shed", [("lit", .flag true), ("oil", .number (.int 2))], []⟩
  tracks := []
  situations := [("shed", {
    label := "Shed"
    description := none
    allowedActions := []
    rules := [
      ⟨⟨"trim", none, none, none⟩, [⟨[.action (.set "counters.oil,true")]⟩, kindle], none⟩,
      ⟨⟨"pour", none, none, none⟩, [refill], none⟩]
    enterIf := none
    ending := true })]
  hints := none

theorem lantern_clean : Check.document lantern = .ok [] := by
  decide +kernel

theorem read_lantern : Scenario.read (.mapping lantern) = .fits lanternScenario := by
  cbv

/-- The oil was set to a flag in the turn before, so it is not filled up. -/
theorem clean_addition_ignored_only_on_flag_lantern :
    ∃ turns s draft, Check.document lantern = .ok [] ∧ Check.hasErrors [] = false ∧
      Scenario.read (.mapping lantern) = .fits lanternScenario ∧
      Course lanternScenario (lanternScenario.start none) turns s ∧
      (∀ p ∈ turns, ∃ id target success, p.move = .action id target success) ∧
      State.ComesTo lanternScenario s "pour" none true refill draft ∧
      (draft.allows refill.guard?).result = .ok true ∧ refill.addsTo? = some ("oil", 1) ∧
      lookupLast "oil" draft.counters = some (.flag true) ∧
      ((∃ n, lookupLast "oil" draft.counters = some (.number n) ∧
        (draft.applyEffect true refill).result = (n.add (.int 1)).map fun v =>
          (draft.setCounter "oil" (.number (capped refill.cap? v)), [])) ∨
      ∃ b, lookupLast "oil" draft.counters = some (.flag b) ∧ lanternScenario.Flagged "oil" ∧
        draft.applyEffect true refill = (fun _ => (draft, [])) <$> draft.allows refill.guard?) := by
  have adds : refill.addsTo? = some ("oil", 1) := by cbv
  have played : ∃ r, (Move.play lanternScenario Session.noon (lanternScenario.start none)
        (.action "trim" none true)).result = .ok r ∧
      ∃ draft, State.ComesTo lanternScenario r.state "pour" none true refill draft ∧
        (draft.allows refill.guard?).result = .ok true ∧
        lookupLast "oil" draft.counters = some (.flag true) := by
    refine ⟨?r, ?done, ?later⟩
    case done =>
      rw [Move.play, Noting.result_adapt]
      cbv
      rfl
    case later =>
      have place : [refill] = [] ++ refill :: [] := rfl
      refine ⟨_, .intro (i := 1) rfl rfl place rfl, ?allowed, rfl⟩
      case allowed => cbv
  obtain ⟨r, played, draft, comes, allowed, flag⟩ := played
  have course : Course lanternScenario (lanternScenario.start none)
      [⟨_, Session.noon, _, r⟩] r.state := .cons played (.nil _)
  have actions : ∀ p ∈ [Played.mk (lanternScenario.start none) Session.noon
      (.action "trim" none true) r], ∃ id target success, p.move = .action id target success := by
    intro p mem
    cases List.mem_singleton.1 mem
    exact ⟨_, _, _, rfl⟩
  exact ⟨_, _, draft, lantern_clean, rfl, read_lantern, course, actions, comes, allowed, adds, flag,
    clean_addition_ignored_only_on_flag lantern_clean rfl read_lantern course actions comes allowed
      adds⟩

/-- The check finds nothing, and yet the first action comes to an addition to a flag. -/
theorem clean_addition_to_flag_lantern :
    Check.document lantern = .ok [] ∧ Scenario.read (.mapping lantern) = .fits lanternScenario ∧
      ∃ draft, State.ComesTo lanternScenario (lanternScenario.start none) "trim" none true kindle
          draft ∧ (draft.allows kindle.guard?).result = .ok true ∧
        kindle.addsTo? = some ("lit", 1) ∧
        lookupLast "lit" draft.counters = some (.flag true) := by
  have place : [⟨[.action (.set "counters.oil,true")]⟩, kindle] =
      [⟨[.action (.set "counters.oil,true")]⟩] ++ kindle :: [] := rfl
  have adds : kindle.addsTo? = some ("lit", 1) := by cbv
  exact ⟨lantern_clean, read_lantern, _, .intro (i := 0) rfl rfl place rfl, rfl, adds, rfl⟩

end Storyworld
