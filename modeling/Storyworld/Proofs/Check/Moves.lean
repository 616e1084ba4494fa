import Storyworld.Proofs.Check.Document
import Storyworld.Proofs.Turn.Asked

/-!
Documents in which the check finds nothing at all, not even to warn of. In play of such a document
every move that is asked for leads somewhere, and none is lost.
-/

namespace Storyworld

open Schema

namespace Check

variable {names : Names} {path : String}

/-- If a list of checks finds nothing, none of them does. -/
theorem all_silent {checks : List Issues} (h : all checks = .ok []) : ∀ c ∈ checks, c = .ok [] := by
  intro c mem
  obtain ⟨lists, each, flat⟩ := map_eq_ok.1 h
  rw [mapM_id_eq_ok.1 each] at mem
  obtain ⟨is, inside, rfl⟩ := List.mem_map.1 mem
  rw [List.flatten_eq_nil_iff.1 flat is inside]

theorem clean_of_silent {check : Issues} (h : check = .ok []) : Clean check :=
  ⟨[], h, rfl⟩

theorem demand_eq_nil {holds : Bool} {i : Issue} (h : demand holds i = []) : holds = true := by
  cases holds with
  | true => rfl
  | false => cases h

/-- The action of an effect in which nothing is found asks for a situation that is there, or for
none. -/
theorem set_asks {raw id : String} (h : action names path "set" (.text raw) = .ok [])
    (asks : (Action.set raw).asks? = some id) : id ∈ names.situations := by
  obtain ⟨⟨target, v⟩, cut, asked⟩ := Option.bind_eq_some_iff.1 asks
  split at asked
  · rename_i next
    cases asked
    obtain ⟨⟨left, right⟩, comma, same⟩ := Option.map_eq_some_iff.1 cut
    cases same
    simp only [action, String.reduceEq, if_false, true_or, or_true, if_true, comma] at h
    simp only [change, String.reduceEq, if_false, true_and, if_pos next] at h
    exact List.contains_iff_mem.1 (demand_eq_nil (Except.ok.inj h))
  · cases asked

theorem effect_action {isLast : Bool} {es : Entries} {key : String}
    (h : effect names path isLast (.mapping es) = .ok []) (one : OneAction names path es key) :
    action names path key (fieldIn es key) = .ok [] := by
  have each := all_silent h
  simp only [List.forall_mem_cons] at each
  obtain ⟨-, found, -⟩ := each
  generalize keysEq : (es.map Prod.fst).filter (fun k => !modifierKeys.contains k) = keys at found
  unfold actions at found
  split at found
  · rename_i written
    have mem : written ∈ (es.map Prod.fst).filter (fun k => !modifierKeys.contains k) := by
      rw [keysEq]
      exact List.mem_singleton.2 rfl
    obtain ⟨there, plain⟩ := List.mem_filter.1 mem
    obtain rfl : written = key := one.only written there (by simpa using plain)
    rwa [if_pos (List.contains_iff_mem.2 one.known)] at found
  · cases found

theorem effect_asks {isLast : Bool} {v : Value} {e : Effect}
    (h : effect names path isLast v = .ok []) (read : Effect.read v = .fits e) :
    e.AsksAmong names.situations := by
  intro id asks
  obtain ⟨es, rfl, -⟩ := model_eq_fits.1 read
  obtain ⟨key, one⟩ := effect_oneAction (clean_of_silent h)
  obtain ⟨a, acts, made⟩ := one.exists_action read
  have asked : a.asks? = some id := by rwa [Effect.asks?, acts] at asks
  have silent := effect_action h one
  cases a with
  | set raw =>
    obtain ⟨k, found⟩ := made
    obtain ⟨named, value⟩ := one.found found (by decide)
    obtain rfl | rfl : key = "set" ∨ key = "set_" := by simpa using named
    · exact set_asks (value ▸ silent) asked
    · exact absurd one.known (by decide)
  | _ => cases asked

theorem effects_ask {v : Value} {es : List Effect} (h : effects names path v = .ok [])
    (read : list Effect.read v = .fits es) : ∀ e ∈ es, e.AsksAmong names.situations := by
  obtain ⟨vs, rfl, -⟩ := list_eq_fits.1 read
  intro e mem
  obtain ⟨w, inside, fit⟩ := list_mem read e mem
  obtain ⟨path', isLast, checked⟩ := mem_effectsFrom inside
  exact effect_asks (all_silent h _ checked) fit

theorem rule_asks {v : Value} {r : Rule} (h : rule names path v = .ok [])
    (read : Rule.read v = .fits r) :
    ∀ e ∈ r.effects ++ r.failure.getD [], e.AsksAmong names.situations := by
  obtain ⟨es, rfl, fromWhen, fromDo, fromFail⟩ := Rule.read_fits read
  obtain ⟨_, w, found, fit⟩ := required_eq_fits.1 fromWhen
  obtain ⟨ws, rfl, -⟩ := Trigger.read_fits fit
  obtain ⟨present, -, ⟨v, written, -⟩, -⟩ :=
    (rule_clean (fieldUnder_only found)).1 (clean_of_silent h)
  have parts := h
  simp only [rule, fieldIn_of_found (fieldUnder_only found), entriesOf, present, if_true,
    written] at parts
  have each := all_silent parts
  simp only [List.forall_mem_cons] at each
  obtain ⟨-, onEffects, onFailure, -⟩ := each
  intro e mem
  obtain normal | failed := List.mem_append.1 mem
  · rw [optional_here written, Checked.under_eq_fits] at fromDo
    exact effects_ask onEffects fromDo e normal
  · cases failure : r.failure with
    | none => simp [failure] at failed
    | some more =>
      obtain ⟨w, here, there, fit⟩ := nullable_found (failure ▸ fromFail)
      rw [ifPresent_here here there] at onFailure
      exact effects_ask onFailure fit e (by simpa [failure] using failed)

theorem situation_asks {id : String} {v : Value} {s : Situation}
    (h : situation names id v = .ok []) (read : Situation.read v = .fits s) :
    ∀ r ∈ s.rules, ∀ e ∈ r.effects ++ r.failure.getD [], e.AsksAmong names.situations := by
  obtain ⟨es, rfl, fromRules, -⟩ := Situation.read_fits read
  obtain ⟨-, -, -, vs, here, -⟩ := situation_clean.1 (clean_of_silent h)
  have each := all_silent h
  simp only [List.forall_mem_cons, here] at each
  obtain ⟨-, -, -, onRules, -⟩ := each
  intro r mem
  rw [optional_here (found_of_fieldIn here nofun), Checked.under_eq_fits] at fromRules
  obtain ⟨w, inside, fit⟩ := list_mem fromRules r mem
  obtain ⟨path', checked⟩ := mem_rulesFrom inside
  exact rule_asks (all_silent onRules _ checked) fit

/-- The situation in which a document that is let through starts is one of its own. -/
theorem opening_known {v : Value} {o : Opening} (h : hasErrors (opening names v) = false)
    (read : Opening.read v = .fits o) : o.situation ∈ names.situations := by
  obtain ⟨es, rfl, fromSituation, -⟩ := Opening.read_fits read
  obtain ⟨_, w, found, fit⟩ := required_eq_fits.1 fromSituation
  cases text_eq_fits.1 fit
  rw [opening, hasErrors_append, Bool.or_eq_false_iff, fieldIn_of_found (fieldUnder_only found)] at h
  simpa [start] using h.1

end Check

/-- A scenario that starts in one of its situations and in which effects ask for such only. -/
structure Scenario.Connected (sc : Scenario) : Prop where
  opening : sc.opening.situation ∈ sc.situations.map Prod.fst
  effects : ∀ e ∈ sc.effects, e.AsksAmong (sc.situations.map Prod.fst)

theorem Check.document_connected {doc : Entries} {sc : Scenario} (h : document doc = .ok [])
    (read : Scenario.read (.mapping doc) = .fits sc) :
    sc.Connected ∧ ∀ id, id ∈ sc.situations.map Prod.fst ↔ id ∈ (namesOf doc).situations := by
  obtain ⟨-, fromInitial, -, fromSituations⟩ := Scenario.read_fits read
  obtain ⟨shaped, -, -, clean, -⟩ := document_clean.1 (clean_of_silent h)
  obtain ⟨ss, here⟩ := mapping_of_shape "situations" shaped (by simp)
  rw [required_here here, Checked.under_eq_fits] at fromSituations
  have same : ∀ id, id ∈ sc.situations.map Prod.fst ↔ id ∈ (namesOf doc).situations := by
    intro id
    simp only [namesOf, fieldIn_of_found here, entriesOf]
    exact mapping_keys fromSituations
  have parts := h
  simp only [document, shape_eq_nil shaped, List.isEmpty_nil, Bool.not_true, Bool.false_eq_true,
    if_false, fieldIn_of_found here, entriesOf] at parts
  have each := all_silent parts
  simp only [List.forall_mem_cons] at each
  obtain ⟨-, -, -, -, onSituations, -⟩ := each
  refine ⟨⟨?_, fun e mem id asks => ?_⟩, same⟩
  · obtain ⟨_, v, found, fit⟩ := required_eq_fits.1 fromInitial
    rw [fieldIn_of_found (fieldUnder_only found)] at clean
    exact (same _).2 (opening_known clean fit)
  · obtain ⟨⟨place, situation⟩, inside, mem⟩ := List.mem_flatMap.1 mem
    obtain ⟨r, rule, mem⟩ := List.mem_flatMap.1 mem
    obtain ⟨v, written, fit⟩ := mapping_mem fromSituations place situation inside
    have silent := all_silent onSituations _ (List.mem_map_of_mem written)
    exact (same id).2 (situation_asks silent fit r rule e mem id asks)

/-- Let a document without an empty name for a situation be checked with nothing found, and be read
as a scenario. In every course of actions from its start, no turn leaves a move for later; and if an
effect that runs in a turn asks for a move, then the turn moves, to the situation that is entered on
its own or else to the one that was asked for last. -/
theorem no_move_is_lost {doc : Entries} {sc : Scenario} {player : Option Player}
    {turns : List Played} {t : State} (checked : Check.document doc = .ok [])
    (named : ∀ id ∈ (Check.namesOf doc).situations, id ≠ "")
    (read : Scenario.read (.mapping doc) = .fits sc)
    (course : Course sc (sc.start player) turns t)
    (actions : ∀ p ∈ turns, ∃ id target success, p.move = .action id target success) :
    ∀ p ∈ turns, p.result.state.nextSituation = none ∧
      ∃ ran draft entered, p.move.Runs sc p.before ran draft ∧
        (sc.autoEntered draft).result = .ok entered ∧
        ∀ place, (ran.filterMap Effect.asks?).getLast? = some place →
          p.result.moved = true ∧ p.result.state.situation = entered.getD place := by
  obtain ⟨connected, same⟩ := Check.document_connected checked read
  have named : ∀ id ∈ sc.situations.map Prod.fst, id ≠ "" :=
    fun id mem => named id ((same id).1 mem)
  have start : (sc.start player).Placed sc ∧ (sc.start player).nextSituation = none :=
    ⟨State.placed_start (lookupLast_isSome.2 connected.opening) player, rfl⟩
  have before := course.before (P := fun s => s.Placed sc ∧ s.nextSituation = none)
    (fun p mem played held => by
      obtain ⟨id, target, success, action⟩ := actions p mem
      refine ⟨Move.play_placed played held.1, ?_⟩
      rw [action] at played
      exact (Move.play_settles played named connected.effects held.1 held.2).1) start
  intro p mem
  obtain ⟨placed, idle⟩ := before p mem
  obtain ⟨id, target, success, action⟩ := actions p mem
  have played := course.played_of_mem mem
  rw [action] at played ⊢
  exact Move.play_settles played named connected.effects placed idle

/-- A castle. The hall is next to the gate, and who knows a way up comes to the tower. -/
def castle : Entries := [
    ("id", .text "castle"),
    ("title", .text "The castle"),
    ("language", .text "en"),
    ("actions", .mapping [("knock", .mapping [("label", .text "Knock"), ("icon", .text "Door")])]),
    ("initial", .mapping [("situation", .text "gate")]),
    ("tracks", .mapping []),
    ("situations", .mapping [
      ("gate", .mapping [
        ("label", .text "Gate"),
        ("on_action", .list [.mapping [
          ("when", .mapping [("actionId", .text "knock")]),
          ("do", .list [
            .mapping [("set", .text " next_situation , hall ")],
            .mapping [("set", .text "next_situation,tower"), ("if", .text "route")]])]])]),
      ("hall", .mapping [
        ("label", .text "Hall"),
        ("on_action", .list [.mapping [
          ("when", .mapping [("actionId", .text "knock")]),
          ("do", .list []),
          ("fail", .list [
            .mapping [("set", .text "route,up")],
            .mapping [("set", .text "next_situation,gate")]])]])]),
      ("tower", .mapping [
        ("label", .text "Tower"),
        ("on_action", .list []),
        ("auto_enter_if", .text "route"),
        ("ending", .bool true)])])]

def castleScenario : Scenario where
  version := 1
  id := "castle"
  title := "The castle"
  description := ""
  language := .en
  theme := none
  actions := [("knock", ⟨"Knock", "Door", none⟩)]
  opening := ⟨"gate", [], []⟩
  tracks := []
  situations := [
    ("gate", {
      label := "Gate"
      description := none
      allowedActions := []
      rules := [⟨⟨"knock", none, none, none⟩, [
        ⟨[.action (.set " next_situation , hall ")]⟩,
        ⟨[.action (.set "next_situation,tower"), .guard "route"]⟩], none⟩]
      enterIf := none
      ending := false }),
    ("hall", {
      label := "Hall"
      description := none
      allowedActions := []
      rules := [⟨⟨"knock", none, none, none⟩, [], some [
        ⟨[.action (.set "route,up")]⟩, ⟨[.action (.set "next_situation,gate")]⟩]⟩]
      enterIf := none
      ending := false }),
    ("tower", {
      label := "Tower"
      description := none
      allowedActions := []
      rules := []
      enterIf := some "route"
      ending := true })]
  hints := none

/-- A knock at the gate leads to the hall. One there that fails asks for the gate, but shows the way
up. -/
theorem no_move_is_lost_castle :
    ∃ turns t, Check.document castle = .ok [] ∧
      (∀ id ∈ (Check.namesOf castle).situations, id ≠ "") ∧
      Scenario.read (.mapping castle) = .fits castleScenario ∧
      Course castleScenario (castleScenario.start none) turns t ∧
      turns.map Played.move = [.action "knock" none true, .action "knock" none false] ∧
      turns.map (fun p => p.result.state.situation) = ["hall", "tower"] ∧
      ∀ p ∈ turns, p.result.state.nextSituation = none ∧
        ∃ ran draft entered, p.move.Runs castleScenario p.before ran draft ∧
          (castleScenario.autoEntered draft).result = .ok entered ∧
          ∀ place, (ran.filterMap Effect.asks?).getLast? = some place →
            p.result.moved = true ∧ p.result.state.situation = entered.getD place := by
  have checked : Check.document castle = .ok [] := by decide +kernel
  have named : ∀ id ∈ (Check.namesOf castle).situations, id ≠ "" := by decide
  have read : Scenario.read (.mapping castle) = .fits castleScenario := by cbv
  let inside : State := { castleScenario.start none with situation := "hall" }
  have knocked : (Move.play castleScenario Session.noon (castleScenario.start none)
      (.action "knock" none true)).result = .ok ⟨inside, [], some 0, true⟩ := by
    rw [Move.play, Noting.result_adapt]
    cbv
  have failed : ∃ r, (Move.play castleScenario Session.noon inside
      (.action "knock" none false)).result = .ok r ∧ r.state.situation = "tower" := by
    refine ⟨?r, ?done, ?place⟩
    case done =>
      rw [Move.play, Noting.result_adapt]
      cbv
      rfl
    case place => rfl
  obtain ⟨r, failed, tower⟩ := failed
  have course : Course castleScenario (castleScenario.start none)
      [⟨_, Session.noon, .action "knock" none true, _⟩,
        ⟨_, Session.noon, .action "knock" none false, r⟩] r.state :=
    .cons knocked (.cons failed (.nil _))
  refine ⟨_, _, checked, named, read, course, rfl, ?_, ?_⟩
  · simp only [List.map_cons, List.map_nil, tower]
    rfl
  · refine no_move_is_lost checked named read course fun p mem => ?_
    simp only [List.mem_cons, List.not_mem_nil, or_false] at mem
    obtain rfl | rfl := mem
    · exact ⟨_, _, _, rfl⟩
    · exact ⟨_, _, _, rfl⟩

end Storyworld
