import Storyworld.Proofs.Decimal.Infinite
import Storyworld.Proofs.Turn.Counters

/-!
Numbers that can be saved. A save file holds finite numbers only. Tracks stay finite whatever
effects do, since they are held within their bounds. Counters stay finite except in two cases: an
effect has negative infinity as its cap, or the sum of a floating-point counter and an amount is too
large and no finite cap lies below it.
-/

namespace Storyworld

open Noting

/-- A counter that a save file can hold. -/
def Counter.IsFinite : Counter → Prop
  | flag _ => True
  | number n => n.isFinite = true

structure Track.IsFinite (t : Track) : Prop where
  value : t.value.isFinite = true
  max : t.max.isFinite = true

theorem Counter.not_capped_isFinite {cap : Option Number} {v : Number} :
    ¬ ((Counter.number v).capped cap).IsFinite ↔ (Storyworld.capped cap v).isFinite = false :=
  Bool.not_eq_true _ ▸ Iff.rfl

theorem counterOf?_isFinite {raw : List Char} {c : Counter} (h : counterOf? raw = some c) :
    c.IsFinite := by
  unfold counterOf? at h
  dsimp only at h
  split at h
  · cases h
    trivial
  · split at h
    · cases h
      trivial
    · split at h
      · cases h
        rfl
      · split at h
        · split at h
          · rename_i finite
            cases h
            exact finite
          · cases h
        · cases h

/-- What an effect sets a counter to is finite before its cap. -/
theorem Effect.setsTo?_isFinite {e : Effect} {key : String} {c : Counter}
    (h : e.setsTo? = some (key, c)) : c.IsFinite := by
  obtain ⟨a, -, h⟩ := Option.bind_eq_some_iff.1 h
  cases a with
  | set raw =>
    obtain ⟨p, -, h⟩ := Option.bind_eq_some_iff.1 h
    obtain ⟨key', -, h⟩ := Option.bind_eq_some_iff.1 h
    obtain ⟨c', read, same⟩ := Option.map_eq_some_iff.1 h
    cases same
    exact counterOf?_isFinite read
  | _ => cases h

namespace State

/-- All numbers of the counters and of the tracks are finite. -/
structure IsFinite (s : State) : Prop where
  counters : ∀ key c, (key, c) ∈ s.counters → c.IsFinite
  tracks : ∀ id t, (id, t) ∈ s.tracks → t.IsFinite

/-- An effect is about to write a number that is not finite. -/
inductive Spills (e : Effect) (s : State) : Prop where
  | cap {key : String} {v limit : Number} (brings : e.Brings s.counters key (.number v))
      (cap : e.cap? = some limit) (lowest : limit.IsLowest) : Spills e s
  | overflow {key : String} {delta : Int} {x : Float} {v : Number}
      (adds : e.addsTo? = some (key, delta))
      (known : lookupLast key s.counters = some (.number (.float x)))
      (sum : Number.add (.float x) (.int delta) = .ok v) (infinite : v.isFinite = false)
      (uncut : ∀ limit, e.cap? = some limit → v.gt limit = true → limit.isFinite = false) :
      Spills e s

variable {s t : State} {e : Effect} {narrative : Bool} {lines : List String}

theorem spills_iff {key : String} {c : Counter} (brings : e.Brings s.counters key c) :
    Spills e s ↔ ¬ (c.capped e.cap?).IsFinite := by
  cases c with
  | flag b =>
    refine iff_of_false (fun spills => ?_) (fun infinite => infinite trivial)
    cases spills with
    | cap brings' => cases (brings.unique brings').2
    | overflow adds known sum => cases (brings.unique (.sum adds known sum)).2
  | number v =>
    rw [Counter.not_capped_isFinite, capped_not_finite]
    constructor
    · rintro (⟨-, cap, lowest⟩ | ⟨adds, known, sum, infinite, uncut⟩)
      · exact .inl ⟨_, cap, lowest⟩
      · cases (brings.unique (.sum adds known sum)).2
        exact .inr ⟨infinite, uncut⟩
    · rintro (⟨limit, cap, lowest⟩ | ⟨infinite, uncut⟩)
      · exact .cap brings cap lowest
      · cases brings with
        | sum adds known sum =>
          rename_i delta n
          cases n with
          | int i =>
            cases sum
            cases infinite
          | float x => exact .overflow adds known sum infinite uncut
        | literal sets => cases infinite.symm.trans (Effect.setsTo?_isFinite sets)

/-- A track keeps its bound, and its value is held within it. -/
theorem Alters.tracks_isFinite (altered : Alters e s t)
    (finite : ∀ id track, (id, track) ∈ s.tracks → track.IsFinite) :
    ∀ id track, (id, track) ∈ t.tracks → track.IsFinite := by
  cases altered with
  | track known moved =>
    intro id track mem
    have bound := (finite _ _ (lookupLast_mem known)).max
    obtain ⟨-, rfl⟩ | old := mem_putEntry mem
    · exact ⟨Track.clamp_isFinite bound _, bound⟩
    · exact finite id track old
  | _ => exact finite

theorem applyEffect_isFinite_iff (finite : s.IsFinite)
    (h : (s.applyEffect narrative e).result = .ok (t, lines)) :
    t.IsFinite ↔ ((s.allows e.guard?).result = .ok true → ¬ Spills e s) := by
  have tracks := (applyEffect_alters h).tracks_isFinite finite.tracks
  obtain ⟨refused, rfl⟩ | ⟨allowed, leaves⟩ := applyEffect_counters h
  · refine iff_of_true finite fun allowed => ?_
    cases refused.symm.trans allowed
  · have counters : t.IsFinite ↔ ∀ key c, (key, c) ∈ t.counters → c.IsFinite :=
      ⟨fun all => all.counters, fun all => ⟨all, tracks⟩⟩
    rw [counters]
    simp only [allowed, true_imp_iff]
    generalize t.counters = ds at leaves ⊢
    cases leaves with
    | @written key c brings =>
      rw [spills_iff brings, not_not]
      constructor
      · exact fun all => all key _ (putEntry_self ..)
      · intro written k d mem
        obtain ⟨-, rfl⟩ | old := mem_putEntry mem
        · exact written
        · exact finite.counters k d old
    | same nothing =>
      refine iff_of_true finite.counters fun spills => ?_
      cases spills with
      | cap brings => exact nothing _ _ brings
      | overflow adds known sum => exact nothing _ _ (.sum adds known sum)

/-- Some effects at the front of a list have made a draft of a state, and the others are to come. -/
def Reaches (narrative : Bool) (s : State) (es : List Effect) (draft : State)
    (rest : List Effect) : Prop :=
  ∃ before lines, es = before ++ rest ∧
    (s.applyEffects narrative before).result = .ok (draft, lines)

theorem reaches_self (narrative : Bool) (s : State) (es : List Effect) :
    Reaches narrative s es s es :=
  ⟨[], [], rfl, rfl⟩

/-- The drafts of a list are the first state and those of the other effects after the first one. -/
theorem reaches_cons {es rest : List Effect} {draft : State} :
    Reaches narrative s (e :: es) draft rest ↔
      (draft = s ∧ rest = e :: es) ∨
        ∃ u lines, (s.applyEffect narrative e).result = .ok (u, lines) ∧
          Reaches narrative u es draft rest := by
  constructor
  · rintro ⟨before, lines, parts, done⟩
    cases before with
    | nil =>
      cases done
      exact .inl ⟨rfl, parts.symm⟩
    | cons f before =>
      obtain ⟨rfl, rfl⟩ := List.cons.inj parts
      obtain ⟨u, first, more, one, others, -⟩ := applyEffects_cons_eq_ok.1 done
      exact .inr ⟨u, first, one, before, more, rfl, others⟩
  · rintro (⟨rfl, rfl⟩ | ⟨u, first, one, before, more, rfl, others⟩)
    · exact reaches_self ..
    · exact ⟨e :: before, _, rfl, applyEffects_cons_eq_ok.2 ⟨u, first, more, one, others, rfl⟩⟩

theorem forall_reaches_cons {P : State → List Effect → Prop} {es : List Effect} {u : State}
    (one : (s.applyEffect narrative e).result = .ok (u, lines)) :
    (∀ draft rest, Reaches narrative s (e :: es) draft rest → P draft rest) ↔
      P s (e :: es) ∧ ∀ draft rest, Reaches narrative u es draft rest → P draft rest := by
  constructor
  · intro all
    exact ⟨all s (e :: es) (reaches_self ..), fun draft rest reached =>
      all draft rest (reaches_cons.2 (.inr ⟨u, lines, one, reached⟩))⟩
  · rintro ⟨first, later⟩ draft rest reached
    obtain ⟨rfl, rfl⟩ | ⟨u', lines', one', reached⟩ := reaches_cons.1 reached
    · exact first
    · cases one.symm.trans one'
      exact later draft rest reached

/-- Let a list of effects be applied to a state with finite numbers only. Then all tracks are finite
afterwards. All counters are finite all the way exactly if no effect that is allowed to run has
negative infinity as its cap, or makes a sum that is too large and that no finite cap lies below. -/
theorem effects_stay_finite_unless_spilled {es : List Effect} (finite : s.IsFinite)
    (applied : (s.applyEffects narrative es).result = .ok (t, lines)) :
    (∀ id track, (id, track) ∈ t.tracks → track.IsFinite) ∧
      ((∀ draft rest, Reaches narrative s es draft rest → draft.IsFinite) ↔
        ∀ draft rest, Reaches narrative s es draft rest → ∀ e, rest.head? = some e →
          (draft.allows e.guard?).result = .ok true → ¬ Spills e draft) := by
  have altered : s.AltersBy (fun _ => True) t := applyEffects_alters (fun _ _ => trivial) applied
  have tracks := altered.keeps (P := fun u => ∀ id track, (id, track) ∈ u.tracks → track.IsFinite)
    (fun _ _ _ _ altered held => altered.tracks_isFinite held) finite.tracks
  refine ⟨tracks, ?_⟩
  clear altered tracks
  induction es generalizing s lines with
  | nil =>
    constructor
    · rintro - draft rest ⟨before, -, parts, -⟩ e next
      obtain ⟨-, rfl⟩ := List.append_eq_nil_iff.1 parts.symm
      cases next
    · rintro - draft rest ⟨before, told, parts, done⟩
      obtain ⟨rfl, -⟩ := List.append_eq_nil_iff.1 parts.symm
      cases done
      exact finite
  | cons e rest ih =>
    obtain ⟨u, first, more, one, others, -⟩ := applyEffects_cons_eq_ok.1 applied
    have step := applyEffect_isFinite_iff finite one
    rw [forall_reaches_cons one, forall_reaches_cons one]
    simp only [List.head?_cons, Option.some.injEq, forall_eq']
    constructor
    · rintro ⟨-, later⟩
      have next : u.IsFinite := later u rest (reaches_self ..)
      exact ⟨step.1 next, (ih next others).1 later⟩
    · rintro ⟨contained, later⟩
      have next : u.IsFinite := step.2 contained
      exact ⟨finite, (ih next others).2 later⟩

/-- A mine of some depth with some gas in it. -/
def mine (depth : Number) (gas : Float) : State where
  situation := "shaft"
  counters := [("depth", .number depth), ("gas", .number (.float gas)), ("lamp", .flag true)]
  tracks := [("air", ⟨"Air", .int 3, .int 10⟩)]
  log := []
  route := none
  nextSituation := none
  player := .newcomer .en
  baseline := none
  knownTargets := []
  sceneDescriptions := []

/-- The greatest floating-point number. -/
def peak : Float := Float.ofBits 0x7FEFFFFFFFFFFFFF

theorem mine_isFinite : (mine (.int 1) peak).IsFinite := by
  have peak_isFinite : Decimal.isFinite peak = true := by decide +kernel
  refine ⟨fun key c mem => ?_, fun id track mem => ?_⟩
  · simp only [mine, List.mem_cons, Prod.mk.injEq, List.not_mem_nil, or_false] at mem
    obtain ⟨-, rfl⟩ | ⟨-, rfl⟩ | ⟨-, rfl⟩ := mem
    · rfl
    · exact peak_isFinite
    · trivial
  · simp only [mine, List.mem_cons, Prod.mk.injEq, List.not_mem_nil, or_false] at mem
    obtain ⟨-, rfl⟩ := mem
    exact ⟨rfl, rfl⟩

theorem applyEffect_dig (gas : Float) (cap : Number) :
    ((mine (.int 1) gas).applyEffect true ⟨[.action (.add "counters.depth,4"), .cap cap]⟩).result =
      .ok ((mine (.int 1) gas).setCounter "depth" (.number (capped (some cap) (.int 5))), []) := by
  cbv

/-- A cap holds the depth back, and the air is held within its bound. -/
theorem effects_stay_finite_unless_spilled_mine :
    ∃ es t, (mine (.int 1) peak).IsFinite ∧
      ((mine (.int 1) peak).applyEffects true es).result = .ok (t, []) ∧
      lookupLast "depth" t.counters = some (.number (.int 3)) ∧
      lookupLast "air" t.tracks = some ⟨"Air", .int 10, .int 10⟩ ∧
      (∀ id track, (id, track) ∈ t.tracks → track.IsFinite) ∧
      ((∀ draft rest, Reaches true (mine (.int 1) peak) es draft rest → draft.IsFinite) ↔
        ∀ draft rest, Reaches true (mine (.int 1) peak) es draft rest → ∀ e, rest.head? = some e →
          (draft.allows e.guard?).result = .ok true → ¬ Spills e draft) := by
  have aired (depth : Number) (gas : Float) : ((mine depth gas).applyEffects true
      [⟨[.action (.track "air,9")]⟩]).result =
        .ok ((mine depth gas).setTrack "air" ⟨"Air", .int 10, .int 10⟩, []) := by
    cbv
  have applied := applyEffects_cons_eq_ok.2
    ⟨_, _, _, applyEffect_dig peak (.int 3), aired (.int 3) peak, rfl⟩
  exact ⟨_, _, mine_isFinite, applied, rfl, rfl,
    effects_stay_finite_unless_spilled mine_isFinite applied⟩

/-- A cap that lies below all other numbers. -/
def bottomless : Value :=
  .mapping [("add", .text "counters.depth,4"), ("cap", .float (Decimal.infinity true))]

def floodChars : List Char := "counters.gas,1".toList ++ List.replicate 308 '0'

/-- An amount of gas with 309 digits. -/
def flood : String := String.ofList floodChars

def floodAmount : Int := .ofNat (Decimal.pow10 308)

theorem addsTo?_flood : Effect.addsTo? ⟨[.action (.add flood)]⟩ = some ("gas", floodAmount) := by
  have amount : amountOf? flood = some ("counters.gas".toList, floodAmount) := by
    have chars : flood.toList = floodChars := String.toList_ofList
    rw [amountOf?, splitChange?, chars]
    decide +kernel
  rw [Effect.addsTo?_eq (a := .add flood) rfl, Action.addsTo?, amount]
  rfl

theorem ofWhole_flood : Decimal.ofWhole floodAmount = .ok (Float.ofBits 0x7FE1CCF385EBC8A0) := by
  have bits : Decimal.bitsOfRatio floodAmount.natAbs 1 = some 0x7FE1CCF385EBC8A0 := by
    decide +kernel
  have positive : decide (floodAmount < 0) = false := by decide +kernel
  rw [Decimal.ofWhole, Decimal.ofRatio?, bits, positive]
  rfl

theorem add_flood : (Number.float peak).add (.int floodAmount) =
    .ok (.float (peak + Float.ofBits 0x7FE1CCF385EBC8A0)) := by
  rw [Number.add, Number.combine, Number.toFloat, Number.toFloat, ofWhole_flood]
  · rfl
  · intro a b h
    cases h

/-- Two effects that load make a number infinite, one by its cap and the other by its sum. -/
theorem applyEffects_mine :
    (mine (.int 1) peak).IsFinite ∧
      ∀ raw ∈ [bottomless, .mapping [("add", .text flood)]], ∃ e t, Effect.read raw = .fits e ∧
        ((mine (.int 1) peak).applyEffects true [e]).result = .ok (t, []) ∧ ¬ t.IsFinite := by
  have nothing (s : State) : (s.applyEffects true []).result = .ok (s, []) := rfl
  refine ⟨mine_isFinite, ?_⟩
  simp only [List.mem_cons, List.not_mem_nil, or_false, forall_eq_or_imp, forall_eq]
  constructor
  · have read : Effect.read bottomless =
        .fits ⟨[.action (.add "counters.depth,4"), .cap (.float (Decimal.infinity true))]⟩ := by
      cbv
    have lowest : (Number.float (Decimal.infinity true)).IsLowest := by
      change Decimal.parts _ = _
      decide +kernel
    have sunk : (capped (some (.float (Decimal.infinity true))) (.int 5)).isFinite = false :=
      capped_not_finite.2 (.inl ⟨_, rfl, lowest⟩)
    refine ⟨_, _, read, applyEffects_cons_eq_ok.2
      ⟨_, _, _, applyEffect_dig .., nothing _, rfl⟩, fun finite => ?_⟩
    cases sunk.symm.trans (finite.counters _ _ (putEntry_self ..))
  · have read (raw : String) : Effect.read (.mapping [("add", .text raw)]) =
        .fits ⟨[.action (.add raw)]⟩ := by
      cbv
    have flooded := result_applyEffect_adds (s := mine (.int 1) peak) addsTo?_flood true rfl
    rw [addToCounter_number _ _ rfl, add_flood] at flooded
    have infinite : Decimal.isFinite (peak + Float.ofBits 0x7FE1CCF385EBC8A0) = false := by
      decide +kernel
    refine ⟨_, _, read flood, applyEffects_cons_eq_ok.2
      ⟨_, _, _, flooded, nothing _, rfl⟩, fun finite => ?_⟩
    cases infinite.symm.trans (finite.counters _ _ (putEntry_self ..))

end State

end Storyworld
