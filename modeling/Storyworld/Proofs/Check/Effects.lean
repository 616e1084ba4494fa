import Storyworld.Proofs.Check.Clean
import Storyworld.Proofs.Effect.Parts

/-!
Effects that the check lets through. Such an effect has one action, which can be read and refers to
what is there, and its guard parses.
-/

namespace Storyworld

/-- A path to one of the keys of an area. -/
def PathTo (area : String) (keys : List String) (path : List Char) : Prop :=
  String.ofList (Text.partAt '.' path).1 = area ∧ String.ofList (Text.partAt '.' path).2 ∈ keys

namespace Action

/-- An action that can be read and that refers to a counter or a track that is there. -/
def Aims (counters tracks : List String) : Action → Prop
  | add raw => ∃ path delta, amountOf? raw = some (path, delta) ∧
      (PathTo "counters" counters path ∨ PathTo "tracks" tracks path)
  | set raw => ∃ path v, splitChange? raw = some (path, v) ∧
      (String.ofList path = "next_situation" ∨ String.ofList path = "route" ∨
        PathTo "counters" counters path ∧ (counterOf? v).isSome)
  | track raw => ∃ key delta, amountOf? raw = some (key, delta) ∧ String.ofList key ∈ tracks
  | _ => True

/-- An amount with no more digits than are read as a number. -/
def ShortAmount : Action → Prop
  | add raw | track raw => ∀ path amount, splitChange? raw = some (path, amount) →
      (amount.filter Text.isDigit).length ≤ Decimal.digitLimit
  | _ => True

theorem Aims.mono {counters tracks counters' tracks' : List String} {a : Action}
    (h : a.Aims counters tracks) (moreCounters : ∀ k ∈ counters, k ∈ counters')
    (moreTracks : ∀ k ∈ tracks, k ∈ tracks') : a.Aims counters' tracks' := by
  cases a with
  | add raw =>
    obtain ⟨path, delta, read, ⟨area, known⟩ | ⟨area, known⟩⟩ := h
    · exact ⟨path, delta, read, .inl ⟨area, moreCounters _ known⟩⟩
    · exact ⟨path, delta, read, .inr ⟨area, moreTracks _ known⟩⟩
  | set raw =>
    obtain ⟨path, v, read, next | route | ⟨⟨area, known⟩, value⟩⟩ := h
    · exact ⟨path, v, read, .inl next⟩
    · exact ⟨path, v, read, .inr (.inl route)⟩
    · exact ⟨path, v, read, .inr (.inr ⟨⟨area, moreCounters _ known⟩, value⟩)⟩
  | track raw =>
    obtain ⟨key, delta, read, known⟩ := h
    exact ⟨key, delta, read, moreTracks _ known⟩
  | _ => trivial

end Action

namespace Check

variable {names : Names} {path : String}

theorem trackAmount_clean {track unknown amount : String} {raw : List Char} :
    hasErrors (trackAmount names path track unknown amount raw) = false ↔
      track ∈ names.tracks ∧ isWholeText raw = true := by
  simp [trackAmount, hasErrors_append]

theorem changeAdd_clean {target raw : List Char}
    (h : hasErrors (change names path "add" target raw) = false) :
    (PathTo "counters" names.counters target ∨ PathTo "tracks" names.tracks target) ∧
      isWholeText raw = true := by
  simp only [change, changeTarget, String.reduceEq, if_false, false_and, true_and] at h
  split at h
  · rename_i area
    obtain ⟨known, whole⟩ := trackAmount_clean.1 h
    exact ⟨.inr ⟨area, known⟩, whole⟩
  · split at h
    · cases h
    · rename_i area
      simp only [counterIssues, if_true, hasErrors_append, hasErrors_demand, Bool.or_eq_false_iff,
        Bool.not_eq_false', List.contains_iff_mem] at h
      exact ⟨.inl ⟨Decidable.not_not.1 area, h.1⟩, h.2⟩

theorem changeSet_clean {target raw : List Char}
    (h : hasErrors (change names path "set" target raw) = false) :
    String.ofList target = "next_situation" ∨ String.ofList target = "route" ∨
      PathTo "counters" names.counters target ∧ (counterOf? raw).isSome := by
  simp only [change, changeTarget, String.reduceEq, if_false, false_and, true_and] at h
  split at h
  · rename_i next
    exact .inl next
  · split at h
    · rename_i route
      exact .inr (.inl route)
    · split at h
      · cases h
      · rename_i area
        simp only [counterIssues, String.reduceEq, if_false, hasErrors_append, hasErrors_demand,
          Bool.or_eq_false_iff, Bool.not_eq_false', List.contains_iff_mem] at h
        exact .inr (.inr ⟨⟨Decidable.not_not.1 area, h.1⟩, counterOf?_of_counterValue h.2⟩)

theorem notAChange_not_clean {key : String} {v : Value} : ¬ Clean (notAChange path key v) := by
  rintro ⟨issues, done, none⟩
  obtain ⟨shown, -, same⟩ := bind_eq_ok.1 done
  cases same
  cases none

/-- A change that is clean has two sides, and the check of these is clean. -/
theorem action_change {key raw : String} (sort : key = "add" ∨ key = "set" ∨ key = "track")
    (h : Clean (action names path key (.text raw))) :
    ∃ target amount, splitChange? raw = some (target, amount) ∧
      hasErrors (change names path key target amount) = false := by
  have other : key ≠ "give_item" := by rintro rfl; simp at sort
  rw [action, if_neg other, if_pos sort] at h
  unfold splitChange?
  split at h
  · rename_i target amount cut
    exact ⟨_, _, by rw [cut]; rfl, clean_ok.1 h⟩
  · exact absurd h notAChange_not_clean

theorem amountOf?_of_isWholeText {raw : String} {target amount : List Char}
    (cut : splitChange? raw = some (target, amount)) (whole : isWholeText amount = true)
    (short : (amount.filter Text.isDigit).length ≤ Decimal.digitLimit) :
    ∃ delta, amountOf? raw = some (target, delta) := by
  obtain ⟨delta, read⟩ := readWhole?_of_isWholeText whole short
  exact ⟨delta, by simp [amountOf?, cut, read]⟩

theorem add_aims {raw : String} (h : Clean (action names path "add" (.text raw)))
    (short : (Action.add raw).ShortAmount) :
    (Action.add raw).Aims names.counters names.tracks := by
  obtain ⟨target, amount, cut, clean⟩ := action_change (.inl rfl) h
  obtain ⟨known, whole⟩ := changeAdd_clean clean
  obtain ⟨delta, read⟩ := amountOf?_of_isWholeText cut whole (short _ _ cut)
  exact ⟨target, delta, read, known⟩

theorem set_aims {raw : String} (h : Clean (action names path "set" (.text raw))) :
    (Action.set raw).Aims names.counters names.tracks := by
  obtain ⟨target, v, cut, clean⟩ := action_change (.inr (.inl rfl)) h
  exact ⟨target, v, cut, changeSet_clean clean⟩

theorem track_aims {raw : String} (h : Clean (action names path "track" (.text raw)))
    (short : (Action.track raw).ShortAmount) :
    (Action.track raw).Aims names.counters names.tracks := by
  obtain ⟨target, amount, cut, clean⟩ := action_change (.inr (.inr rfl)) h
  rw [change, if_pos rfl] at clean
  obtain ⟨known, whole⟩ := trackAmount_clean.1 clean
  obtain ⟨delta, read⟩ := amountOf?_of_isWholeText cut whole (short _ _ cut)
  exact ⟨target, delta, read, known⟩

theorem action_there {key : String} {v : Value} (h : Clean (action names path key v)) :
    v ≠ .null := by
  rintro rfl
  unfold action at h
  split at h
  · cases clean_ok.1 h
  · split at h
    · exact notAChange_not_clean h
    · cases clean_ok.1 h

theorem modifier_clean {es : Entries} {key : String} {check : Value → Issues} {v : Value}
    (h : Clean (modifier es key check)) (written : lookupLast key es = some v) :
    Clean (check v) := by
  simpa [modifier, written] using h

/-- The entries of an effect that the check lets through: one action and perhaps modifiers. -/
structure OneAction (names : Names) (path : String) (es : Entries) (key : String) : Prop where
  known : key ∈ actionKeys
  written : lookupLast key es = some (fieldIn es key)
  only : ∀ k ∈ es.map Prod.fst, k ∉ modifierKeys → k = key
  action : Clean (action names path key (fieldIn es key))
  guard : Clean (modifier es "if" (condition "Effect guard" path))

theorem effect_oneAction {isLast : Bool} {es : Entries}
    (h : Clean (effect names path isLast (.mapping es))) :
    ∃ key, OneAction names path es key := by
  simp only [effect, clean_all, List.forall_mem_cons] at h
  obtain ⟨unknown, actions, -, guard, -⟩ := h
  generalize keysEq : (es.map Prod.fst).filter (fun k => !modifierKeys.contains k) = keys
    at unknown actions
  have mem {k : String} : k ∈ keys ↔ k ∈ es.map Prod.fst ∧ k ∉ modifierKeys := by
    simp [← keysEq, List.mem_filter]
  have known : ∀ k ∈ keys, k ∈ actionKeys := by
    intro k inside
    by_contra other
    have issue : anError path ("Unknown effect type \"" ++ k ++ "\".") ∈
        (keys.filter fun k => !actionKeys.contains k).map fun k =>
          anError path ("Unknown effect type \"" ++ k ++ "\".") :=
      List.mem_map_of_mem (List.mem_filter.2 ⟨inside, by simpa using other⟩)
    have none := List.any_eq_false.1 (clean_ok.1 unknown) _ issue
    exact none rfl
  unfold Check.actions at actions
  split at actions
  · rename_i key
    have inside := known key (by simp)
    rw [if_pos (List.contains_iff_mem.2 inside)] at actions
    have here : ∃ v, lookupLast key es = some v := exists_lookupLast (mem.1 (by simp)).1
    obtain ⟨v, here⟩ := here
    refine ⟨key, inside, by simp [fieldIn, here], fun k there plain => ?_, actions, guard⟩
    simpa using mem.2 ⟨there, plain⟩
  · cases clean_ok.1 actions

namespace OneAction

variable {es : Entries} {key : String} {e : Effect}

/-- What is found under the names of an action stands under the only action key. -/
theorem found (one : OneAction names path es key) {keyNames : List String} {k : String} {v : Value}
    (h : Schema.fieldUnder es keyNames = some (k, v)) (plain : ∀ n ∈ keyNames, n ∉ modifierKeys) :
    key ∈ keyNames ∧ fieldIn es key = v := by
  obtain ⟨mem, here⟩ := Schema.fieldUnder_key h
  cases one.only k (lookupLast_key here) (plain k mem)
  exact ⟨mem, by simp [fieldIn, here]⟩

theorem not_unknown (one : OneAction names path es key) {k : String} {v : Value} :
    (k, v) ∉ Effect.unknownEntries es := by
  intro mem
  refine Effect.not_mem_unknownEntries ?_ mem
  by_cases plain : k ∈ modifierKeys
  · exact List.mem_append_right _ plain
  · rw [one.only k (List.mem_map_of_mem (List.mem_filter.1 mem).1) plain]
    exact List.mem_append_left _ one.known

theorem action_aims (one : OneAction names path es key) {a : Action}
    (made : Effect.Made es (.action a)) (short : a.ShortAmount) :
    a.Aims names.counters names.tracks := by
  have clean := one.action
  cases a with
  | add raw =>
    obtain ⟨k, h⟩ := made
    obtain ⟨named, value⟩ := one.found h (by decide)
    obtain rfl : key = "add" := by simpa using named
    exact add_aims (value ▸ clean) short
  | set raw =>
    obtain ⟨k, h⟩ := made
    obtain ⟨named, value⟩ := one.found h (by decide)
    obtain rfl | rfl : key = "set" ∨ key = "set_" := by simpa using named
    · exact set_aims (value ▸ clean)
    · exact absurd one.known (by decide)
  | track raw =>
    obtain ⟨k, h⟩ := made
    obtain ⟨named, value⟩ := one.found h (by decide)
    obtain rfl : key = "track" := by simpa using named
    exact track_aims (value ▸ clean) short
  | _ => trivial

/-- The action of the only action key is the one that the effect has. -/
theorem exists_action (one : OneAction names path es key)
    (read : Effect.read (.mapping es) = .fits e) :
    ∃ a, e.action? = some a ∧ Effect.Made es (.action a) := by
  have there := action_there one.action
  obtain ⟨p, mem, same⟩ := Effect.exists_part_first read (List.mem_append_left _ one.known)
    one.written there
  have plain : ∀ k ∈ actionKeys, k ∉ modifierKeys := by decide
  have kept : p ∈ e.actionParts :=
    List.mem_filter.2 ⟨mem, by simpa [Effect.isModifier, same] using plain key one.known⟩
  obtain ⟨last, isLast⟩ : ∃ q, e.actionParts.getLast? = some q :=
    ⟨_, List.getLast?_eq_some_getLast (List.ne_nil_of_mem kept)⟩
  obtain ⟨inside, sort⟩ := List.mem_filter.1 (List.mem_of_getLast? isLast)
  have made := (Effect.mem_parts read).1 inside
  cases last with
  | action a => exact ⟨a, by simp [Effect.action?, isLast], made⟩
  | guard c => cases sort
  | cap n => cases sort
  | unknown k v => exact absurd made one.not_unknown

theorem guardPart_parses (one : OneAction names path es key)
    (read : Effect.read (.mapping es) = .fits e) {c : String} (mem : Part.guard c ∈ e.parts) :
    Condition.Parses c := by
  obtain ⟨k, found⟩ := (Effect.mem_parts read).1 mem
  obtain ⟨named, here⟩ := Schema.fieldUnder_key found
  obtain rfl | rfl : k = "if" ∨ k = "if_" := by simpa using named
  · exact condition_parses (modifier_clean one.guard here)
  · have stray := one.only "if_" (lookupLast_key here) (by decide)
    exact absurd one.known (stray ▸ by decide)

theorem guard_parses (one : OneAction names path es key)
    (read : Effect.read (.mapping es) = .fits e) {c : String} (h : e.guard? = some c) :
    Condition.Parses c := by
  obtain ⟨p, mem, same⟩ := List.exists_of_findSome?_eq_some h
  cases p <;> cases same
  exact one.guardPart_parses read mem

end OneAction

end Check

end Storyworld
