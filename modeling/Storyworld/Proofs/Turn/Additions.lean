import Mathlib
import Storyworld.Proofs.State.Whole
import Storyworld.Proofs.Text.Joined
import Storyworld.Proofs.Turn.Counters

/-!
Additions without a guard and without a cap. On flags and whole numbers they do not depend on each
other: in every order they add to each counter the sum of all amounts for it. An addition whose text
cannot be read, or that leads to a flag or to no counter, adds nothing.
-/

namespace Storyworld

open Noting

theorem splitChange?_eq_some {raw : String} {path v : List Char} :
    splitChange? raw = some (path, v) ↔ ∃ before after,
      raw.toList = before ++ ',' :: after ∧ ',' ∉ before ∧
        Text.trim before = path ∧ Text.trim after = v := by
  unfold splitChange?
  constructor
  · intro h
    obtain ⟨⟨before, after⟩, cut, same⟩ := Option.map_eq_some_iff.1 h
    cases same
    obtain ⟨whole, absent⟩ := Text.cutAt_eq_some cut
    exact ⟨before, after, whole, absent, rfl, rfl⟩
  · rintro ⟨before, after, whole, absent, rfl, rfl⟩
    rw [whole, Text.cutAt_append absent]
    rfl

theorem counterAt?_iff {path : List Char} {key : String} :
    counterAt? path = some key ↔ path = "counters".toList ++ '.' :: key.toList ∨
      path = "counters".toList ∧ key = "" := by
  constructor
  · intro h
    obtain ⟨area, name⟩ := counterAt?_eq_some h
    unfold Text.partAt at area name
    cases cut : Text.cutAt '.' path with
    | none =>
      rw [cut] at area name
      exact .inr ⟨by simp [← area], name.symm⟩
    | some p =>
      rw [cut] at area name
      obtain ⟨whole, -⟩ := Text.cutAt_eq_some cut
      exact .inl (by simp [whole, ← area, ← name])
  · have plain : '.' ∉ "counters".toList := by decide
    rintro (rfl | ⟨rfl, rfl⟩)
    · rw [counterAt?, Text.partAt_append plain]
      simp
    · rw [counterAt?, Text.partAt_of_notMem plain]
      simp

/-- An addition to a counter is written as a path to it, a comma and a whole number; blanks may
stand around both. The counter without a name needs no point in its path. -/
theorem Action.addsTo?_add {raw key : String} {delta : Int} :
    (Action.add raw).addsTo? = some (key, delta) ↔
      ∃ before after, raw.toList = before ++ ',' :: after ∧ ',' ∉ before ∧
        (Text.trim before = "counters".toList ++ '.' :: key.toList ∨
          Text.trim before = "counters".toList ∧ key = "") ∧
        Decimal.readWhole? (Text.trim after) = some delta := by
  simp only [addsTo?, amountOf?, Option.bind_eq_some_iff, Option.map_eq_some_iff, Prod.exists,
    splitChange?_eq_some, ← counterAt?_iff]
  constructor
  · rintro ⟨_, _, ⟨_, _, ⟨before, after, whole, absent, rfl, rfl⟩, n, read, same⟩, k, found, same'⟩
    cases same
    cases same'
    exact ⟨before, after, whole, absent, found, read⟩
  · rintro ⟨before, after, whole, absent, found, read⟩
    exact ⟨_, _, ⟨_, _, ⟨before, after, whole, absent, rfl, rfl⟩, delta, read, rfl⟩, key, found,
      rfl⟩

/-- An addition that is meant for a counter and always runs in full. Its text may be malformed. -/
structure Effect.AddsFreely (e : Effect) : Prop where
  counter : ∃ raw, e.action? = some (.add raw) ∧
    ∀ p ∈ amountOf? raw, (counterAt? p.1).isSome = true
  unguarded : e.guard?.getD "" = ""
  uncapped : e.cap? = none

/-- What an effect adds to the counter of a key. -/
def Effect.gives (e : Effect) (key : String) : Int :=
  match e.addsTo? with
  | some (k, delta) => if k = key then delta else 0
  | none => 0

/-- What effects add to the counter of a key, all together. -/
def increase (es : List Effect) (key : String) : Int :=
  (((es.filterMap Effect.addsTo?).filter fun p => p.1 = key).map Prod.snd).sum

theorem increase_cons (e : Effect) (es : List Effect) (key : String) :
    increase (e :: es) key = e.gives key + increase es key := by
  unfold increase Effect.gives
  cases adds : e.addsTo? with
  | none => simp [adds]
  | some p =>
    by_cases here : p.1 = key <;> simp [adds, here]

theorem increase_perm {es fs : List Effect} (h : fs.Perm es) (key : String) :
    increase fs key = increase es key :=
  (((h.filterMap _).filter _).map _).sum_eq

/-- A counter with an amount added to it. Only whole numbers take it. -/
def Counter.plus (d : Int) : Counter → Counter
  | .number (.int i) => .number (.int (i + d))
  | c => c

namespace Counter

@[simp] theorem plus_zero (c : Counter) : c.plus 0 = c := by
  cases c with
  | flag b => rfl
  | number n => cases n <;> simp [plus]

@[simp] theorem plus_plus (a b : Int) (c : Counter) : (c.plus a).plus b = c.plus (a + b) := by
  cases c with
  | flag b => rfl
  | number n => cases n <;> simp [plus, Int.add_assoc]

theorem Whole.plus {c : Counter} (whole : c.Whole) (d : Int) : (c.plus d).Whole := by
  cases c with
  | flag b => exact whole
  | number n =>
    obtain ⟨i, rfl⟩ := whole n rfl
    rintro m ⟨⟩
    exact ⟨i + d, rfl⟩

end Counter

/-- Counters, each with an amount of its own added to it. -/
def Counters.plus (amount : String → Int) (cs : Counters) : Counters :=
  cs.map fun e => (e.1, e.2.plus (amount e.1))

namespace Counters

variable {cs : Counters} {amount : String → Int}

@[simp] theorem plus_keys : (plus amount cs).map Prod.fst = cs.map Prod.fst := by
  simp [plus]

theorem plus_none : plus (fun _ => 0) cs = cs := by
  simp [plus]

theorem plus_append (first later : String → Int) :
    plus later (plus first cs) = plus (fun key => first key + later key) cs := by
  simp [plus]

theorem lookupLast_plus (key : String) :
    lookupLast key (plus amount cs) = (lookupLast key cs).map (Counter.plus (amount key)) :=
  lookupLast_mapKeyed (fun k => Counter.plus (amount k)) key cs

theorem plus_whole (whole : ∀ k c, (k, c) ∈ cs → c.Whole) :
    ∀ k c, (k, c) ∈ plus amount cs → c.Whole := by
  intro k c mem
  obtain ⟨⟨k', c'⟩, mem', same⟩ := List.mem_map.1 mem
  cases same
  exact (whole k' c' mem').plus _

end Counters

/-- Where every key stands once, a change under a key is a change of each entry that has it. -/
theorem putEntry_eq_map {α : Type} {key : String} {m : List (String × α)}
    (once : (m.map Prod.fst).Nodup) (known : key ∈ m.map Prod.fst) (v : α) :
    putEntry key v m = m.map fun e => (e.1, if e.1 = key then v else e.2) := by
  induction m with
  | nil => cases known
  | cons e rest ih =>
    obtain ⟨k, w⟩ := e
    obtain ⟨new, once⟩ := List.nodup_cons.1 once
    by_cases here : k = key
    · have others : ∀ e ∈ rest, e.1 ≠ key := fun e mem same =>
        new (List.mem_map.2 ⟨e, mem, same.trans here.symm⟩)
      have kept : rest.map (fun e => (e.1, if e.1 = key then v else e.2)) = rest := by
        refine (List.map_congr_left fun e mem => ?_).trans (List.map_id rest)
        rw [if_neg (others e mem)]
        rfl
      simp [putEntry, here, kept]
    · have inside : key ∈ rest.map Prod.fst := by simpa [Ne.symm here] using known
      simp [putEntry, here, ih once inside]

namespace State

variable {s : State} {e : Effect} {es : List Effect}

theorem allows_of_empty {condition : Option String} (nothing : condition.getD "" = "") (s : State) :
    s.allows condition = pure true := by
  cases condition with
  | none => rfl
  | some c => exact if_pos nothing

/-- An addition of an amount adds it to the counter that has the key, if that is a number. -/
theorem addToCounter_plus {key : String} {delta : Int} (once : (s.counters.map Prod.fst).Nodup)
    (whole : ∀ k c, (k, c) ∈ s.counters → c.Whole) :
    s.addToCounter key delta none = .ok { s with
      counters := s.counters.plus fun k => if k = key then delta else 0 } := by
  have found (k : String) (c : Counter) (mem : (k, c) ∈ s.counters) :
      lookupLast k s.counters = some c := (lookupLast_eq_some once).2 mem
  unfold addToCounter
  split
  · rename_i n known
    obtain ⟨i, rfl⟩ := whole key _ (lookupLast_mem known) n rfl
    have added : putEntry key (.number (.int (i + delta))) s.counters =
        s.counters.plus fun k => if k = key then delta else 0 := by
      rw [putEntry_eq_map once (lookupLast_key known)]
      refine List.map_congr_left fun ⟨k, c⟩ mem => ?_
      by_cases here : k = key
      · subst here
        cases known.symm.trans (found k c mem)
        simp [Counter.plus]
      · simp [here]
    exact congrArg (fun cs => Except.ok { s with counters := cs }) added
  · -- under the key there is a flag or nothing, so no entry takes the amount
    rename_i other
    have same : (s.counters.plus fun k => if k = key then delta else 0) = s.counters := by
      refine (List.map_congr_left fun ⟨k, c⟩ mem => ?_).trans (List.map_id _)
      by_cases here : k = key
      · subst here
        cases c with
        | flag b => rfl
        | number n => exact absurd (found k _ mem) (other n)
      · simp [here]
    rw [same]

theorem applyEffect_plus (once : (s.counters.map Prod.fst).Nodup)
    (whole : ∀ k c, (k, c) ∈ s.counters → c.Whole) (free : e.AddsFreely) (narrative : Bool) :
    (s.applyEffect narrative e).result =
      .ok ({ s with counters := s.counters.plus e.gives }, []) := by
  have allowed := congrArg Noting.result (allows_of_empty free.unguarded s)
  cases adds : e.addsTo? with
  | some p =>
    obtain ⟨key, delta⟩ := p
    have gives : e.gives = fun k => if k = key then delta else 0 := by
      funext k
      simp [Effect.gives, adds, eq_comm]
    rw [result_applyEffect_adds adds narrative allowed, free.uncapped,
      addToCounter_plus once whole, gives]
    rfl
  | none =>
    have gives : e.gives = fun _ => 0 := by
      funext k
      simp [Effect.gives, adds]
    obtain ⟨raw, does, counter⟩ := free.counter
    have malformed : amountOf? raw = none := by
      cases read : amountOf? raw with
      | none => rfl
      | some p =>
        obtain ⟨key, found⟩ := Option.isSome_iff_exists.1 (counter p read)
        simp [Effect.addsTo?_eq does, Action.addsTo?, read, found] at adds
    have idle : (s.doAction (.add raw) e.cap?).result = .ok s := by
      simp only [doAction, doAdd, malformed]
      rfl
    rw [result_applyEffect, allowed, gives, Counters.plus_none]
    simp only [does, idle]
    cases narrative <;> rfl

theorem applyEffects_plus (once : (s.counters.map Prod.fst).Nodup)
    (whole : ∀ k c, (k, c) ∈ s.counters → c.Whole) (free : ∀ e ∈ es, e.AddsFreely)
    (narrative : Bool) :
    (s.applyEffects narrative es).result =
      .ok ({ s with counters := s.counters.plus (increase es) }, []) := by
  induction es generalizing s with
  | nil =>
    have nothing : increase [] = fun _ => 0 := rfl
    rw [nothing, Counters.plus_none]
    rfl
  | cons e rest ih =>
    obtain ⟨first, others⟩ := List.forall_mem_cons.1 free
    have one := applyEffect_plus once whole first narrative
    have later := ih (s := { s with counters := s.counters.plus e.gives })
      (by rwa [Counters.plus_keys]) (Counters.plus_whole whole) others
    rw [Counters.plus_append, ← funext (increase_cons e rest)] at later
    exact applyEffects_cons_eq_ok.2 ⟨_, [], [], one, later, rfl⟩

/-- Additions without guards and caps can be made in any order. Let counters be flags or whole
numbers, each under a key of its own. Whatever the order, the additions leave one and the same
state: the old one, but each counter that holds a number has grown by the sum of the amounts for it.
Flags are what they were, and no counter is new. -/
theorem additions_work_in_any_order (once : (s.counters.map Prod.fst).Nodup)
    (whole : ∀ k c, (k, c) ∈ s.counters → c.Whole) (free : ∀ e ∈ es, e.AddsFreely)
    (narrative : Bool) :
    ∃ cs : Counters,
      (∀ fs : List Effect, fs.Perm es →
        (s.applyEffects narrative fs).result = .ok ({ s with counters := cs }, [])) ∧
      cs.map Prod.fst = s.counters.map Prod.fst ∧
      (∀ key b, lookupLast key s.counters = some (.flag b) →
        lookupLast key cs = some (.flag b)) ∧
      ∀ key i, lookupLast key s.counters = some (.number (.int i)) →
        lookupLast key cs = some (.number (.int (i + increase es key))) := by
  refine ⟨s.counters.plus (increase es), fun fs perm => ?_, Counters.plus_keys,
    fun key b flag => ?_, fun key i number => ?_⟩
  · rw [applyEffects_plus once whole (fun e mem => free e (perm.subset mem)),
      funext (increase_perm perm)]
  · rw [Counters.lookupLast_plus, flag]
    rfl
  · rw [Counters.lookupLast_plus, number]
    rfl

end State

/-- A larder with eggs, a door and a debt of flour. -/
def larder : State where
  situation := "kitchen"
  counters := [("eggs", .number (.int 5)), ("open", .flag true), ("flour", .number (.int (-2)))]
  tracks := [("eggs", ⟨"Eggs", .int 0, .int 12⟩)]
  log := []
  route := none
  nextSituation := none
  player := .newcomer .en
  baseline := none
  knownTargets := []
  sceneDescriptions := []

/-- Additions for the larder, of which some are for a flag, for nothing that is there, or malformed.
-/
def deliveries : List Effect := [
    ⟨[.action (.add "counters.eggs,3")]⟩,
    ⟨[.action (.add "counters.open,1")]⟩,
    ⟨[.action (.add " counters.eggs , -1_0 ")]⟩,
    ⟨[.action (.add "counters.flour")]⟩,
    ⟨[.action (.log "Salt."), .guard "", .action (.add "counters.salt,1")]⟩,
    ⟨[.action (.add "counters.flour,two")]⟩,
    ⟨[.action (.add "counters.flour,+2")]⟩]

theorem additions_work_in_any_order_larder :
    ∃ cs : Counters,
      (larder.applyEffects true deliveries).result = .ok ({ larder with counters := cs }, []) ∧
      (larder.applyEffects true deliveries.reverse).result =
        .ok ({ larder with counters := cs }, []) ∧
      lookupLast "eggs" cs = some (.number (.int (-2))) ∧
      lookupLast "open" cs = some (.flag true) ∧
      lookupLast "flour" cs = some (.number (.int 0)) := by
  have once : (larder.counters.map Prod.fst).Nodup := by decide
  have whole : ∀ k c, (k, c) ∈ larder.counters → c.Whole := by
    rintro k c mem n rfl
    have number : (k = "eggs" ∧ n = .int 5) ∨ k = "flour" ∧ n = .int (-2) := by
      simpa [larder] using mem
    obtain ⟨-, rfl⟩ | ⟨-, rfl⟩ := number <;> exact ⟨_, rfl⟩
  have free : ∀ e ∈ deliveries, e.AddsFreely := by
    have each (raw : String) (parts : List Part) (does : Effect.action? ⟨parts⟩ = some (.add raw))
        (counter : ∀ p ∈ amountOf? raw, (counterAt? p.1).isSome = true)
        (unguarded : (Effect.guard? ⟨parts⟩).getD "" = "")
        (uncapped : Effect.cap? ⟨parts⟩ = none) : Effect.AddsFreely ⟨parts⟩ :=
      ⟨⟨raw, does, counter⟩, unguarded, uncapped⟩
    simp only [deliveries, List.forall_mem_cons]
    refine ⟨each _ _ rfl ?_ rfl rfl, each _ _ rfl ?_ rfl rfl, each _ _ rfl ?_ rfl rfl,
      each _ _ rfl ?_ rfl rfl, each _ _ rfl ?_ rfl rfl, each _ _ rfl ?_ rfl rfl,
      each _ _ rfl ?_ rfl rfl, nofun⟩ <;> decide
  obtain ⟨cs, anyOrder, -, flags, numbers⟩ :=
    State.additions_work_in_any_order once whole free true
  have eggs : 5 + increase deliveries "eggs" = -2 := by decide
  have flour : -2 + increase deliveries "flour" = 0 := by decide
  exact ⟨cs, anyOrder _ (.refl _), anyOrder _ (List.reverse_perm _),
    eggs ▸ numbers "eggs" 5 rfl, flags "open" true rfl, flour ▸ numbers "flour" (-2) rfl⟩

end Storyworld
