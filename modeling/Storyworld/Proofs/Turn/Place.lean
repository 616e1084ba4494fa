import Storyworld.Proofs.Turn.Frame

/-!
Where the player is. A turn moves to situations of the scenario only, so that a player who starts in
one is never outside of them. A move that is asked for and can be made is made in the same turn; what
is left for later names no situation.
-/

namespace Storyworld

open Noting

namespace State

theorem pending?_eq_none {sc : Scenario} {s : State} :
    s.pending? sc = none ↔
      ∀ id, s.nextSituation = some id → id ≠ "" → sc.situation? id = none := by
  unfold pending?
  cases asked : s.nextSituation with
  | none => simp
  | some id => by_cases named : id = "" <;> simp [named]

/-- The player is in a situation of the scenario, and no move is left that can be made. -/
structure Placed (sc : Scenario) (s : State) : Prop where
  known : (sc.situation? s.situation).isSome
  settled : s.pending? sc = none

theorem placed_start {sc : Scenario} (opening : (sc.situation? sc.opening.situation).isSome)
    (player : Option Player) : (sc.start player).Placed sc :=
  ⟨opening, rfl⟩

theorem recordEnding_nextSituation (sc : Scenario) (now : Timestamp) (s : State) :
    (s.recordEnding sc now).nextSituation = s.nextSituation := by
  obtain ⟨p, recorded⟩ := recordEnding_eq sc now s
  rw [recorded]

/-- A move puts the player into the situation and forgets what was asked for. -/
theorem moved_placed {sc : Scenario} {id : String} (known : (sc.situation? id).isSome)
    (now : Timestamp) (s : State) : ((s.moveTo id).recordEnding sc now).Placed sc := by
  constructor
  · rw [recordEnding_situation]
    exact known
  · rw [pending?, recordEnding_nextSituation]
    rfl

/-- Whatever effects have asked for, the end of a turn leaves no move that can be made. -/
theorem resolve_placed {sc : Scenario} {now : Timestamp} {s t : State} {moved : Bool}
    (known : (sc.situation? s.situation).isSome)
    (h : (s.resolve sc now).result = .ok (t, moved)) : t.Placed sc := by
  obtain ⟨entered, -, ⟨idle, rfl, -⟩ | ⟨id, -, defined, rfl, -⟩⟩ := resolve_goes h
  · exact ⟨known, (Option.or_eq_none_iff.1 idle).2⟩
  · exact moved_placed defined now s

end State

/-- One turn, of the player or of the world, keeps the player in known situations. -/
theorem Move.play_placed {sc : Scenario} {now : Timestamp} {s : State} {m : Move} {r : TurnResult}
    (h : (m.play sc now s).result = .ok r) (placed : s.Placed sc) : r.state.Placed sc := by
  obtain ⟨-, same⟩ | ⟨draft, altered, resolved⟩ := Move.play_eq_ok h
  · rw [same]
    exact placed
  · have here : draft.situation = s.situation := altered.same State.Alters.situation
    exact State.resolve_placed (here ▸ placed.known) resolved

theorem Course.placed {sc : Scenario} {s t : State} {turns : List Played}
    (course : Course sc s turns t) (start : s.Placed sc) : t.Placed sc :=
  course.keeps (fun _ _ played before => Move.play_placed played before) start

/-- In every course of turns from a start in a defined situation the player is in a defined
situation. An action then always comes to the rules of that situation, never to the branch for
undefined ones. If no situation has the empty name, a move that is left for later names no
situation. -/
theorem player_is_never_stranded {sc : Scenario} {player : Option Player} {turns : List Played}
    {t : State} (opening : (sc.situation? sc.opening.situation).isSome)
    (course : Course sc (sc.start player) turns t) :
    (∃ situation, sc.situation? t.situation = some situation ∧
      ∀ now id target success, t.act sc now id target success = (do
        let (rule, r) ← t.answer situation id target success
        State.finish sc now rule r)) ∧
      ((∀ id ∈ sc.situations.map Prod.fst, id ≠ "") →
        ∀ id, t.nextSituation = some id → sc.situation? id = none) := by
  have placed : t.Placed sc := course.placed (State.placed_start opening player)
  obtain ⟨situation, here⟩ := Option.isSome_iff_exists.1 placed.known
  refine ⟨⟨situation, here, fun now id target success => ?_⟩, fun named id asked => ?_⟩
  · rw [State.act, here]
  · by_cases empty : id = ""
    · refine Option.not_isSome_iff_eq_none.1 fun known => ?_
      exact named id (lookupLast_isSome.1 known) empty
    · exact State.pending?_eq_none.1 placed.settled id asked empty

/-- A house in which the player wishes for places that it does not have. -/
def house : Scenario where
  version := 1
  id := "house"
  title := "The house"
  description := ""
  language := .en
  theme := none
  actions := [("wish", ⟨"Wish", "Star", none⟩)]
  opening := ⟨"cellar", [], []⟩
  tracks := []
  situations := [
    ("cellar", {
      label := "Cellar"
      description := none
      allowedActions := ["wish"]
      rules := [⟨⟨"wish", none, none, none⟩, [⟨[.action (.set "next_situation,moon")]⟩], none⟩]
      enterIf := none
      ending := false }),
    ("attic", {
      label := "Attic"
      description := none
      allowedActions := ["wish"]
      rules := [⟨⟨"wish", none, none, none⟩,
        [⟨[.action (.set "route,none")]⟩, ⟨[.action (.set "next_situation, sun ")]⟩], none⟩]
      enterIf := some "route == 'stairs'"
      ending := false })]
  hints := none

/-- A consequence that shows the way up. -/
def lamp : Value :=
  .mapping [("set", .text "route,stairs")]

theorem read_lamp : Effect.read lamp = .fits ⟨[.action (.set "route,stairs")]⟩ := by
  cbv

/-- The player wishes for the moon and stays, is led to the attic, and wishes for the sun there. -/
theorem player_is_never_stranded_house :
    ∃ turns t, (house.situation? house.opening.situation).isSome ∧
      Course house (house.start none) turns t ∧
      turns.map (fun p => (p.result.state.situation, p.result.state.nextSituation)) =
        [("cellar", some "moon"), ("attic", none), ("attic", some "sun")] ∧
      (∃ situation, house.situation? t.situation = some situation ∧
        ∀ now id target success, t.act house now id target success = (do
          let (rule, r) ← t.answer situation id target success
          State.finish house now rule r)) ∧
      (∀ id ∈ house.situations.map Prod.fst, id ≠ "") ∧
      ∀ id, t.nextSituation = some id → house.situation? id = none := by
  have opening : (house.situation? house.opening.situation).isSome := rfl
  have named : ∀ id ∈ house.situations.map Prod.fst, id ≠ "" := by decide
  let waiting : State := { house.start none with nextSituation := some "moon" }
  let above : State := { house.start none with situation := "attic", route := some "stairs" }
  let again : State :=
    { house.start none with
      situation := "attic", route := some "none", nextSituation := some "sun" }
  have wished : (Move.play house Session.noon (house.start none)
      (.action "wish" none true)).result = .ok ⟨waiting, [], some 0, false⟩ := by
    rw [Move.play, result_adapt]
    cbv
  have led : (Move.play house Session.noon waiting (.consequences [[lamp]])).result =
      .ok ⟨above, [], none, true⟩ := by
    have read : State.readEffects [lamp] = .ok [⟨[.action (.set "route,stairs")]⟩] := by
      rw [State.readEffects, List.mapM_cons, read_lamp]
      rfl
    simp only [Move.play, State.applyConsequences, State.applyLists, read]
    rw [result_adapt]
    cbv
  have wishedAgain : (Move.play house Session.noon above (.action "wish" none true)).result =
      .ok ⟨again, [], some 0, false⟩ := by
    rw [Move.play, result_adapt]
    cbv
  have course : Course house (house.start none)
      [⟨_, Session.noon, .action "wish" none true, _⟩, ⟨_, Session.noon, .consequences [[lamp]], _⟩,
        ⟨_, Session.noon, .action "wish" none true, _⟩] again :=
    .cons wished (.cons led (.cons wishedAgain (.nil _)))
  obtain ⟨known, settled⟩ := player_is_never_stranded opening course
  exact ⟨_, _, opening, course, rfl, known, named, settled named⟩

end Storyworld
