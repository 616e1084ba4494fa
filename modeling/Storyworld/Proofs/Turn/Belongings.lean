import Storyworld.Proofs.Turn.Asked

/-!
What the player carries and has heard of. Items are told apart by their ids, so an inventory holds no
id twice, and neither is a target known twice. A turn takes away what its effects name and nothing
else; what it adds stands behind what was there.
-/

namespace Storyworld

open Noting

/-- The id of the item that an action takes away. -/
def Action.removes? : Action → Option String
  | removeItem id => some id
  | _ => none

def Effect.removes? (e : Effect) : Option String :=
  e.action?.bind Action.removes?

/-- The ids of the items that some effects take away. -/
def removals (ran : List Effect) : List String :=
  ran.filterMap Effect.removes?

/-- The items that stay if those with some ids are taken away. -/
def itemsWithout (gone : List String) (items : List Item) : List Item :=
  items.filter fun i => i.id ∉ gone

theorem itemsWithout_nil (items : List Item) : itemsWithout [] items = items := by
  simp [itemsWithout]

theorem itemsWithout_append (first later : List String) (items : List Item) :
    itemsWithout (first ++ later) items = itemsWithout later (itemsWithout first items) := by
  simp only [itemsWithout, List.filter_filter, List.mem_append, not_or, Bool.decide_and]
  congr 1
  funext i
  exact Bool.and_comm _ _

theorem itemsWithout_mono {gone : List String} {items more : List Item} (h : items <+: more) :
    itemsWithout gone items <+: itemsWithout gone more :=
  h.filter _

/-- No two items with one id. -/
def ItemsOnce (items : List Item) : Prop :=
  (items.map Item.id).Nodup

theorem Player.hasItem_iff {p : Player} {id : String} :
    p.hasItem id = true ↔ id ∈ p.inventory.map Item.id := by
  simp [hasItem]

theorem Player.give_itemsOnce {p : Player} (item : Item) (once : ItemsOnce p.inventory) :
    ItemsOnce (p.give item).inventory := by
  unfold give
  split
  · exact once
  · rename_i new
    have fresh : item.id ∉ p.inventory.map Item.id := fun mem => new (hasItem_iff.2 mem)
    simpa [ItemsOnce, List.concat_eq_append] using List.Nodup.concat fresh once

theorem Player.give_extends (p : Player) (item : Item) :
    p.inventory <+: (p.give item).inventory := by
  unfold give
  split
  · exact List.prefix_rfl
  · exact List.prefix_append ..

theorem Player.removeItem_inventory (p : Player) (id : String) :
    (p.removeItem id).inventory = itemsWithout [id] p.inventory := by
  simp [removeItem, itemsWithout, bne, beq_eq_decide]

/-- The opening adds the items of a scenario one after the other, those with a known id left out. -/
theorem Player.equip_itemsOnce {p : Player} (items : List Item) (once : ItemsOnce p.inventory) :
    ItemsOnce (p.equip items).inventory := by
  induction items generalizing p with
  | nil => exact once
  | cons item rest ih => exact ih (give_itemsOnce item once)

namespace State

variable {s t u : State}

/-- Everything in the inventory and among the known targets stands there once. -/
structure BelongingsOnce (s : State) : Prop where
  items : ItemsOnce s.player.inventory
  targets : s.knownTargets.Nodup

/-- A step that takes away at most the items with some ids. All others stay in front and in their
order, and so do all known targets. -/
structure KeepsBut (gone : List String) (s t : State) : Prop where
  items : itemsWithout gone s.player.inventory <+: t.player.inventory
  targets : s.knownTargets <+: t.knownTargets
  once : s.BelongingsOnce → t.BelongingsOnce

theorem KeepsBut.of_eq (items : t.player.inventory = s.player.inventory)
    (targets : t.knownTargets = s.knownTargets) : KeepsBut [] s t where
  items := by rw [itemsWithout_nil, items]
  targets := by rw [targets]
  once held := ⟨items ▸ held.items, targets ▸ held.targets⟩

theorem KeepsBut.trans {gone more : List String} (first : KeepsBut gone s t)
    (second : KeepsBut more t u) : KeepsBut (gone ++ more) s u where
  items := by
    rw [itemsWithout_append]
    exact (itemsWithout_mono first.items).trans second.items
  targets := first.targets.trans second.targets
  once held := second.once (first.once held)

theorem learnTarget_belongings (s : State) (name : String) : KeepsBut [] s (s.learnTarget name) := by
  unfold learnTarget
  split
  · exact .of_eq rfl rfl
  · rename_i new
    have fresh : name ∉ s.knownTargets := by simpa using new
    refine ⟨by rw [itemsWithout_nil], List.prefix_append .., fun held => ⟨held.items, ?_⟩⟩
    simpa [List.concat_eq_append] using held.targets.concat fresh

theorem give_belongings (s : State) (item : Item) :
    KeepsBut [] s { s with player := s.player.give item } where
  items := by
    rw [itemsWithout_nil]
    exact s.player.give_extends item
  targets := List.prefix_rfl
  once held := ⟨Player.give_itemsOnce item held.items, held.targets⟩

theorem remove_belongings (s : State) (id : String) :
    KeepsBut [id] s { s with player := s.player.removeItem id } where
  items := by rw [Player.removeItem_inventory]
  targets := List.prefix_rfl
  once held := by
    refine ⟨?_, held.targets⟩
    rw [Player.removeItem_inventory]
    exact held.items.sublist (List.filter_sublist.map Item.id)

/-- An action takes away the item that it names, if it names one. -/
theorem doAction_belongings {a : Action} {cap : Option Number}
    (h : (s.doAction a cap).result = .ok t) : KeepsBut a.removes?.toList s t := by
  cases a with
  | add raw =>
    obtain ⟨cs, ts, rfl⟩ := doAdd_reach h
    exact .of_eq rfl rfl
  | set raw =>
    obtain ⟨cs, route, next, rfl⟩ := doSet_reach h
    exact .of_eq rfl rfl
  | track raw =>
    obtain ⟨ts, rfl⟩ := doTrack_reach h
    exact .of_eq rfl rfl
  | log | secret | agreement =>
    cases h
    exact .of_eq rfl rfl
  | giveItem item =>
    cases h
    exact give_belongings s item
  | removeItem id =>
    cases h
    exact remove_belongings s id
  | addKnownTarget name =>
    cases h
    exact learnTarget_belongings s name

theorem applyEffect_belongings {narrative : Bool} {e : Effect} {lines : List String}
    (allowed : (s.allows e.guard?).result = .ok true)
    (h : (s.applyEffect narrative e).result = .ok (t, lines)) :
    KeepsBut e.removes?.toList s t := by
  obtain ⟨refused, -⟩ | ⟨-, ⟨unknown, rfl⟩ | ⟨a, does, done⟩⟩ := applyEffect_eq_ok h
  · cases allowed.symm.trans refused
  · rw [Effect.removes?, unknown]
    exact .of_eq rfl rfl
  · rw [Effect.removes?, does]
    exact doAction_belongings done

/-- A list of effects takes away what those of them name that run. -/
theorem Runs.belongings {es ran : List Effect} (h : Runs s es ran t) :
    KeepsBut (removals ran) s t := by
  induction h with
  | nil => exact .of_eq rfl rfl
  | skip _ _ ih => exact ih
  | @run s u t e rest ran lines allowed done _ ih =>
    have parts : removals (e :: ran) = e.removes?.toList ++ removals ran := by
      cases removes : e.removes? <;> simp [removals, removes]
    rw [parts]
    exact (applyEffect_belongings allowed done).trans ih

/-- Whether lines of the story are told does not matter to the state. -/
theorem applyEffect_untold (e : Effect) (s : State) :
    s.applyEffect false e = (fun p => (p.1, [])) <$> s.applyEffect true e := by
  unfold applyEffect
  rw [map_bind]
  congr 1
  funext runs
  split
  · rfl
  · split
    · rfl
    · rw [map_bind]
      rfl

theorem applyEffects_untold (es : List Effect) (s : State) :
    s.applyEffects false es = (fun p => (p.1, [])) <$> s.applyEffects true es := by
  induction es generalizing s with
  | nil => rfl
  | cons e rest ih =>
    simp only [applyEffects, applyEffect_untold, bind_map_left, map_bind, ih]
    rfl

/-- Consequences at work, one list of effects after the other; `ran` are the effects that run. -/
inductive RunsLists : State → List (List Value) → (ran : List Effect) → State → Prop where
  | nil (s : State) : RunsLists s [] [] s
  | cons {s u t : State} {vs : List Value} {es ran more : List Effect} {rest : List (List Value)}
      (read : readEffects vs = .ok es) (first : Runs s es ran u)
      (others : RunsLists u rest more t) : RunsLists s (vs :: rest) (ran ++ more) t

theorem exists_runsLists {lists : List (List Value)} {p : State × List String}
    (h : (s.applyLists lists).result = .ok p) : ∃ ran, RunsLists s lists ran p.1 := by
  induction lists generalizing s p with
  | nil =>
    cases h
    exact ⟨[], .nil _⟩
  | cons vs rest ih =>
    obtain ⟨es, q, m, read, applied, others, rfl⟩ := applyLists_cons_eq_ok h
    rw [applyEffects_untold, result_map] at applied
    obtain ⟨⟨u, told⟩, worked, rfl⟩ := map_eq_ok.1 applied
    obtain ⟨ran, first⟩ := exists_runs worked
    obtain ⟨more, later⟩ := ih others
    exact ⟨ran ++ more, .cons read first later⟩

theorem RunsLists.belongings {lists : List (List Value)} {ran : List Effect}
    (h : RunsLists s lists ran t) : KeepsBut (removals ran) s t := by
  induction h with
  | nil => exact .of_eq rfl rfl
  | cons _ first _ ih =>
    rw [removals, List.filterMap_append]
    exact first.belongings.trans ih

/-- The record of an ending is written into the history, not into the inventory. -/
theorem recordEnding_belongings (sc : Scenario) (now : Timestamp) (s : State) :
    KeepsBut [] s (s.recordEnding sc now) := by
  unfold recordEnding
  split
  · split
    · exact .of_eq rfl rfl
    · exact .of_eq rfl rfl
  · exact .of_eq rfl rfl

theorem resolve_belongings {sc : Scenario} {now : Timestamp} {moved : Bool}
    (h : (s.resolve sc now).result = .ok (t, moved)) : KeepsBut [] s t := by
  obtain ⟨rfl, -⟩ | ⟨id, -, rfl, -⟩ := resolve_eq_ok h
  · exact .of_eq rfl rfl
  · have left : KeepsBut [] s (s.moveTo id) := .of_eq rfl rfl
    exact left.trans (recordEnding_belongings sc now _)

theorem start_belongingsOnce (sc : Scenario) {player : Option Player}
    (own : ∀ p, player = some p → ItemsOnce p.inventory) : (sc.start player).BelongingsOnce := by
  refine ⟨Player.equip_itemsOnce _ ?_, List.nodup_nil⟩
  cases player with
  | none => exact List.nodup_nil
  | some p => exact own p rfl

end State

/-- The effects that run in a turn of any kind, and what they make of the state. In an undefined
situation the player's actions do nothing. -/
inductive Move.Works (sc : Scenario) (s : State) : Move → (ran : List Effect) → State → Prop where
  | ignored {id : String} {target : Option String} {success : Bool}
      (unknown : sc.situation? s.situation = none) : Works sc s (.action id target success) [] s
  | action {m : Move} {ran : List Effect} {draft : State} (runs : Runs sc s m ran draft) :
      Works sc s m ran draft
  | consequences {lists : List (List Value)} {ran : List Effect} {draft : State}
      (runs : State.RunsLists s lists ran draft) : Works sc s (.consequences lists) ran draft

namespace Move

variable {sc : Scenario} {now : Timestamp} {s draft : State} {m : Move} {ran : List Effect}
  {r : TurnResult}

/-- A turn is the work of its effects and then at most one move. In an undefined situation it is
neither. -/
theorem exists_works (h : (m.play sc now s).result = .ok r) :
    ∃ ran draft, Works sc s m ran draft ∧ (r.state = draft ∨
      (draft.resolve sc now).result = .ok (r.state, r.moved)) := by
  cases m with
  | action id target success =>
    cases here : sc.situation? s.situation with
    | none =>
      rw [play, result_adapt, mapError_eq_ok, State.act, here] at h
      cases h
      exact ⟨[], s, .ignored here, .inl rfl⟩
    | some situation =>
      obtain ⟨ran, draft, runs, resolved⟩ := exists_runs h (by rw [here]; rfl)
      exact ⟨ran, draft, .action runs, .inr resolved⟩
  | consequences lists =>
    have steady (p : State × List String) :
        Steady ((State.finish sc now none p).adapt TurnFailure.fault) :=
      (State.steady_finish sc now none p).adapt
    rw [play, result_adapt, mapError_eq_ok, State.applyConsequences, result_bind _ _ steady] at h
    obtain ⟨p, applied, h⟩ := bind_eq_ok.1 h
    rw [result_adapt, mapError_eq_ok] at h
    obtain ⟨ran, runs⟩ := State.exists_runsLists applied
    exact ⟨ran, p.1, .consequences runs, .inr (State.finish_eq_ok h).1⟩

theorem Works.belongings (h : Works sc s m ran draft) :
    State.KeepsBut (removals ran) s draft := by
  cases h with
  | ignored => exact .of_eq rfl rfl
  | action runs =>
    cases runs with
    | unanswered => exact .of_eq rfl rfl
    | answered _ _ runs => exact runs.belongings
  | consequences runs => exact runs.belongings

/-- A turn takes away the items that the effects name that run in it, and no others. -/
theorem play_belongings (h : (m.play sc now s).result = .ok r) :
    ∃ ran draft, Works sc s m ran draft ∧
      (r.state = draft ∨ (draft.resolve sc now).result = .ok (r.state, r.moved)) ∧
      State.KeepsBut (removals ran) s r.state := by
  obtain ⟨ran, draft, works, ends⟩ := exists_works h
  refine ⟨ran, draft, works, ends, ?_⟩
  obtain same | resolved := ends
  · exact same ▸ works.belongings
  · have kept := works.belongings.trans (State.resolve_belongings resolved)
    rwa [List.append_nil] at kept

end Move

/-- In every course of turns from the start of a scenario no item id stands twice in the inventory
and no target is known twice, whatever the opening gives, if the player brings no id twice. No turn
forgets a known target, and the items that none of the effects that run in it takes away stay as they
are, in their order, in front of those that it adds. -/
theorem inventory_ids_stay_unique {sc : Scenario} {player : Option Player} {turns : List Played}
    {t : State} (own : ∀ p, player = some p → ItemsOnce p.inventory)
    (course : Course sc (sc.start player) turns t) :
    t.BelongingsOnce ∧ ∀ p ∈ turns,
      p.before.BelongingsOnce ∧ p.result.state.BelongingsOnce ∧
      p.before.knownTargets <+: p.result.state.knownTargets ∧
      ∃ ran draft, p.move.Works sc p.before ran draft ∧
        (p.result.state = draft ∨
          (draft.resolve sc p.now).result = .ok (p.result.state, p.result.moved)) ∧
        itemsWithout (removals ran) p.before.player.inventory <+:
          p.result.state.player.inventory := by
  have step (p : Played) (_ : p ∈ turns)
      (played : (p.move.play sc p.now p.before).result = .ok p.result)
      (once : p.before.BelongingsOnce) : p.result.state.BelongingsOnce := by
    obtain ⟨ran, draft, -, -, kept⟩ := Move.play_belongings played
    exact kept.once once
  have start := State.start_belongingsOnce sc own
  refine ⟨course.keeps step start, fun p mem => ?_⟩
  have played := course.played_of_mem mem
  have before := course.before step start p mem
  obtain ⟨ran, draft, works, ends, kept⟩ := Move.play_belongings played
  exact ⟨before, kept.once before, kept.targets, ran, draft, works, ends, kept.items⟩

/-- An item of a pedlar's pack. -/
def ware (id name : String) : Item :=
  ⟨id, name, "", "Package", none⟩

/-- A pedlar whose opening gives one knife twice, and another lamp than the player's own. -/
def pedlar : Scenario where
  version := 1
  id := "pedlar"
  title := "The pedlar"
  description := ""
  language := .en
  theme := none
  actions := [("swap", ⟨"Swap", "Repeat", none⟩)]
  opening := ⟨"road", [], [ware "knife" "Knife", ware "lamp" "New lamp", ware "knife" "Dagger"]⟩
  tracks := []
  situations := [("road", {
    label := "Road"
    description := none
    allowedActions := ["swap"]
    rules := [⟨⟨"swap", none, none, none⟩,
      [⟨[.action (.giveItem (ware "coat" "Coat"))]⟩, ⟨[.action (.removeItem "lamp")]⟩,
        ⟨[.action (.giveItem (ware "lamp" "Old lamp"))]⟩,
        ⟨[.action (.removeItem "knife"), .guard "route == 'hills'"]⟩,
        ⟨[.action (.addKnownTarget "inn")]⟩, ⟨[.action (.addKnownTarget "inn")]⟩], none⟩]
    enterIf := none
    ending := false })]
  hints := none

/-- A player with a lamp and a rope. -/
def wanderer : Player :=
  { Player.newcomer .en with inventory := [ware "lamp" "Lamp", ware "rope" "Rope"] }

/-- A consequence that takes away a coat. -/
def thief : Value :=
  .mapping [("remove_item", .text "coat")]

theorem read_thief : Effect.read thief = .fits ⟨[.action (.removeItem "coat")]⟩ := by
  cbv

/-- The lamp is swapped and stands last then, the knife is not taken, and a thief takes the coat. -/
theorem inventory_ids_stay_unique_pedlar :
    ∃ turns t, (∀ p, some wanderer = some p → ItemsOnce p.inventory) ∧
      Course pedlar (pedlar.start (some wanderer)) turns t ∧
      turns.map (fun p => (p.result.state.player.inventory.map Item.name,
        p.result.state.knownTargets)) =
        [(["Rope", "Knife", "Coat", "Old lamp"], ["inn"]),
          (["Rope", "Knife", "Old lamp"], ["inn"])] ∧
      t.BelongingsOnce ∧ ∀ p ∈ turns,
        p.before.BelongingsOnce ∧ p.result.state.BelongingsOnce ∧
        p.before.knownTargets <+: p.result.state.knownTargets ∧
        ∃ ran draft, p.move.Works pedlar p.before ran draft ∧
          (p.result.state = draft ∨
            (draft.resolve pedlar p.now).result = .ok (p.result.state, p.result.moved)) ∧
          itemsWithout (removals ran) p.before.player.inventory <+:
            p.result.state.player.inventory := by
  have own : ∀ p, some wanderer = some p → ItemsOnce p.inventory := by
    rintro p ⟨⟩
    unfold ItemsOnce
    decide
  let swapped : State :=
    { pedlar.start (some wanderer) with
      player := { wanderer with inventory := [ware "rope" "Rope", ware "knife" "Knife",
        ware "coat" "Coat", ware "lamp" "Old lamp"] }
      knownTargets := ["inn"] }
  let robbed : State :=
    { swapped with
      player := { wanderer with inventory := [ware "rope" "Rope", ware "knife" "Knife",
        ware "lamp" "Old lamp"] } }
  have first : (Move.play pedlar Session.noon (pedlar.start (some wanderer))
      (.action "swap" none true)).result = .ok ⟨swapped, [], some 0, false⟩ := by
    rw [Move.play, result_adapt]
    cbv
  have second : (Move.play pedlar Session.noon swapped (.consequences [[thief]])).result =
      .ok ⟨robbed, [], none, false⟩ := by
    have read : State.readEffects [thief] = .ok [⟨[.action (.removeItem "coat")]⟩] := by
      rw [State.readEffects, List.mapM_cons, read_thief]
      rfl
    simp only [Move.play, State.applyConsequences, State.applyLists, read]
    rw [result_adapt]
    cbv
  have course : Course pedlar (pedlar.start (some wanderer))
      [⟨_, Session.noon, .action "swap" none true, _⟩,
        ⟨_, Session.noon, .consequences [[thief]], _⟩] robbed :=
    .cons first (.cons second (.nil _))
  exact ⟨_, _, own, course, rfl, inventory_ids_stay_unique own course⟩

end Storyworld
