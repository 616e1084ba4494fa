import Mathlib
import Storyworld.Proofs.Turn.Course
import Storyworld.State.Start

/-!
The frame of a turn: what no turn changes, whatever the texts of its effects say. Counters and tracks
are a closed set, of which only values change; the log, the scenes and what the player is are out of
reach; and a turn ends where it began or in a situation of the scenario.
-/

namespace Storyworld

open Noting

/-- What a track has apart from its value. -/
def Track.scale (t : Track) : String × Number := (t.name, t.max)

namespace State

/-- Two states that differ at most in values of counters and of tracks, in the route, in where the
player is or is about to go, in the inventory, in the history and in the known targets. -/
structure Frame (s t : State) : Prop where
  counterKeys : t.counters.map Prod.fst = s.counters.map Prod.fst
  trackKeys : t.tracks.map Prod.fst = s.tracks.map Prod.fst
  trackScale : ∀ id, (lookupLast id t.tracks).map Track.scale =
    (lookupLast id s.tracks).map Track.scale
  log : t.log = s.log
  baseline : t.baseline = s.baseline
  sceneDescriptions : t.sceneDescriptions = s.sceneDescriptions
  name : t.player.name = s.player.name
  identity : t.player.identity = s.player.identity
  language : t.player.language = s.player.language
  attributes : t.player.attributes = s.player.attributes
  equipment : t.player.equipment = s.player.equipment

theorem Frame.refl (s : State) : s.Frame s :=
  ⟨rfl, rfl, fun _ => rfl, rfl, rfl, rfl, rfl, rfl, rfl, rfl, rfl⟩

theorem Frame.trans {s t u : State} (first : s.Frame t) (second : t.Frame u) : s.Frame u where
  counterKeys := second.counterKeys.trans first.counterKeys
  trackKeys := second.trackKeys.trans first.trackKeys
  trackScale id := (second.trackScale id).trans (first.trackScale id)
  log := second.log.trans first.log
  baseline := second.baseline.trans first.baseline
  sceneDescriptions := second.sceneDescriptions.trans first.sceneDescriptions
  name := second.name.trans first.name
  identity := second.identity.trans first.identity
  language := second.language.trans first.language
  attributes := second.attributes.trans first.attributes
  equipment := second.equipment.trans first.equipment

theorem Alters.frame {s t : State} {e : Effect} (h : Alters e s t) : s.Frame t := by
  cases h with
  | addition known =>
    exact { Frame.refl s with counterKeys := putEntry_keys (lookupLast_key known) }
  | setting known => exact { Frame.refl s with counterKeys := putEntry_keys known }
  | track known moved =>
    exact { Frame.refl s with
      trackKeys := putEntry_keys (lookupLast_key known)
      trackScale := lookupLast_putEntry_map known rfl }
  | _ => exact { Frame.refl s with }

theorem AltersBy.frame {s t : State} {among : Effect → Prop} (h : AltersBy among s t) :
    s.Frame t :=
  h.keeps (fun _ _ _ _ altered framed => framed.trans altered.frame) (Frame.refl s)

theorem recordEnding_frame (sc : Scenario) (now : Timestamp) (s : State) :
    s.Frame (s.recordEnding sc now) := by
  unfold recordEnding
  split
  · split
    · exact { Frame.refl s with }
    · exact Frame.refl s
  · exact Frame.refl s

theorem moveTo_frame (s : State) (id : String) : s.Frame (s.moveTo id) :=
  { Frame.refl s with }

theorem recordEnding_situation (sc : Scenario) (now : Timestamp) (s : State) :
    (s.recordEnding sc now).situation = s.situation := by
  obtain ⟨p, recorded⟩ := recordEnding_eq sc now s
  rw [recorded]

/-- A turn keeps the frame of the state and ends where it began or in a situation of the scenario.
Effects on their own keep the frame as well, and they neither move the player nor write history. -/
theorem turn_keeps_frame :
    (∀ (sc : Scenario) (now : Timestamp) (m : Move) (s : State) (r : TurnResult),
      (m.play sc now s).result = .ok r →
        s.Frame r.state ∧ (r.state.situation = s.situation ∨
          r.state.situation ∈ sc.situations.map Prod.fst)) ∧
      ∀ (narrative : Bool) (es : List Effect) (s t : State) (lines : List String),
        (s.applyEffects narrative es).result = .ok (t, lines) →
          s.Frame t ∧ t.situation = s.situation ∧ t.player.history = s.player.history := by
  constructor
  · intro sc now m s r played
    obtain ⟨-, same⟩ | ⟨draft, altered, resolved⟩ := Move.play_eq_ok played
    · rw [same]
      exact ⟨Frame.refl s, .inl rfl⟩
    · have worked : s.Frame draft := altered.frame
      obtain ⟨same, -⟩ | ⟨id, known, moved, -⟩ := resolve_eq_ok resolved
      · rw [same]
        exact ⟨worked, .inl (altered.same Alters.situation)⟩
      · have ended := recordEnding_frame sc now (draft.moveTo id)
        rw [moved]
        refine ⟨(worked.trans (moveTo_frame draft id)).trans ended, .inr ?_⟩
        rw [recordEnding_situation]
        exact lookupLast_isSome.1 known
  · intro narrative es s t lines applied
    have altered : s.AltersBy (fun _ => True) t := applyEffects_alters (fun _ _ => trivial) applied
    exact ⟨altered.frame, altered.same Alters.situation, altered.same Alters.history⟩

/-- Effects with texts that name what there is not, next to some that name what there is. -/
def meddling : List Effect := [
    ⟨[.action (.set "player.name,Bob")]⟩,
    ⟨[.action (.set "counters.gold,5")]⟩,
    ⟨[.action (.add "counters.,2"), .cap (.int 4)]⟩,
    ⟨[.action (.add "log.length,1")]⟩,
    ⟨[.action (.log "Splash."), .action (.track "hull,50"), .guard "counters[''] == 4"]⟩,
    ⟨[.action (.track "mast,1"), .unknown "situation" (.text "moon")]⟩,
    ⟨[.action (.set "next_situation, far ")]⟩]

/-- A ferry that is rowed from one bank to the other. -/
def ferry : Scenario where
  version := 1
  id := "ferry"
  title := "The ferry"
  description := ""
  language := .en
  theme := none
  actions := [("row", ⟨"Row", "Oar", none⟩)]
  opening := ⟨"near", [("", .number (.int 3)), ("wet", .flag false)], []⟩
  tracks := [("hull", ⟨"Hull", 4, 9⟩)]
  situations := [
    ("near", {
      label := "Near bank"
      description := none
      allowedActions := ["row"]
      rules := [⟨⟨"row", none, none, none⟩, meddling, none⟩]
      enterIf := none
      ending := false }),
    ("far", {
      label := "Far bank"
      description := none
      allowedActions := []
      rules := []
      enterIf := none
      ending := true })]
  hints := none

theorem turn_keeps_frame_ferry :
    (∃ r, (Move.play ferry Session.noon (ferry.start none) (.action "row" none true)).result =
        .ok r ∧ r.state.situation = "far" ∧
        r.state.tracks = [("hull", ⟨"Hull", .int 9, .int 9⟩)] ∧ (ferry.start none).Frame r.state) ∧
      ∃ t lines, ((ferry.start none).applyEffects true meddling).result = .ok (t, lines) ∧
        t.counters = [("", .number (.int 4)), ("wet", .flag false)] ∧
        (ferry.start none).Frame t ∧ t.situation = "near" := by
  constructor
  · have rowed : ∃ r, (Move.play ferry Session.noon (ferry.start none)
        (.action "row" none true)).result = .ok r ∧ r.state.situation = "far" ∧
        r.state.tracks = [("hull", ⟨"Hull", .int 9, .int 9⟩)] := by
      refine ⟨?r, ?done, ?place, ?track⟩
      case done =>
        rw [Move.play, Noting.result_adapt]
        cbv
        rfl
      case place => rfl
      case track => rfl
    obtain ⟨r, played, far, tracks⟩ := rowed
    exact ⟨r, played, far, tracks, (turn_keeps_frame.1 _ _ _ _ _ played).1⟩
  · have worked : ∃ t lines, ((ferry.start none).applyEffects true meddling).result =
        .ok (t, lines) ∧ t.counters = [("", .number (.int 4)), ("wet", .flag false)] := by
      refine ⟨?t, ?lines, ?done, ?counters⟩
      case done =>
        cbv
        rfl
      case counters => rfl
    obtain ⟨t, lines, applied, counters⟩ := worked
    obtain ⟨framed, near, -⟩ := turn_keeps_frame.2 _ _ _ _ _ applied
    exact ⟨t, lines, applied, counters, framed, near⟩

end State

end Storyworld
