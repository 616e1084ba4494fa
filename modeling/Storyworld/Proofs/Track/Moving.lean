import Storyworld.Proofs.Effect.Order
import Storyworld.Proofs.Text.Joined
import Storyworld.Proofs.Turn.Alterations

/-!
Two ways to move a track. An effect may name the track itself or add to a path that leads to it. The
path is cut and trimmed as a whole, the name on its own; both come to the same track and amount.
-/

namespace Storyworld

open Noting

/-! The texts -/

theorem partAt_tracks (key : List Char) :
    Text.partAt '.' ("tracks.".toList ++ key) = ("tracks".toList, key) := by
  have cut := Text.cutAt_append (x := '.') (a := "tracks".toList) (by decide) key
  have chars : "tracks.".toList ++ key = "tracks".toList ++ '.' :: key := by simp
  rw [Text.partAt, chars, cut]
  rfl

variable {t : String}

/-- A change of a path is that of the key with the area in front of the key. -/
theorem splitChange?_tracks (start : ∀ c ∈ t.toList.head?, Text.isBlank c = false) :
    splitChange? ("tracks." ++ t) =
      (splitChange? t).map fun p => ("tracks.".toList ++ p.1, p.2) := by
  have cut := Text.cutAt_append_left (x := ',') (a := "tracks.".toList) (by decide) t.toList
  rw [splitChange?, String.toList_append, cut, splitChange?, Option.map_map, Option.map_map]
  refine Option.map_congr fun p sides => ?_
  obtain ⟨chars, -⟩ := Text.cutAt_eq_some sides
  have key : ∀ c ∈ p.1.head?, Text.isBlank c = false := by
    intro c head
    obtain ⟨rest, front⟩ := List.head?_eq_some_iff.1 head
    exact start c (by rw [chars, front]; rfl)
  have front : ∀ c ∈ "tracks.".toList.head?, Text.isBlank c = false := by
    rintro c ⟨⟩
    rfl
  have back : ∀ c ∈ "tracks.".toList.getLast?, Text.isBlank c = false := by
    rintro c ⟨⟩
    rfl
  have path := Text.trim_append (a := "tracks.".toList) (by decide) front back key
  simp only [Function.comp_apply, path]

theorem amountOf?_tracks (start : ∀ c ∈ t.toList.head?, Text.isBlank c = false) :
    amountOf? ("tracks." ++ t) = (amountOf? t).map fun p => ("tracks.".toList ++ p.1, p.2) := by
  rw [amountOf?, splitChange?_tracks start, amountOf?]
  cases splitChange? t with
  | none => rfl
  | some p =>
    simp only [Option.map_some, Option.bind_some]
    cases Decimal.readWhole? p.2 <;> rfl

/-! The effects -/

namespace State

theorem result_doAdd_tracks (start : ∀ c ∈ t.toList.head?, Text.isBlank c = false) (s : State)
    (cap : Option Number) : (s.doAdd ("tracks." ++ t) cap).result = (s.doTrack t cap).result := by
  rw [doAdd, doTrack, amountOf?_tracks start]
  cases amountOf? t with
  | none =>
    -- The two warnings differ, so the results are compared with the state and not with each other.
    exact Eq.trans (b := .ok s) rfl rfl
  | some p =>
    simp only [Option.map_some, partAt_tracks, String.ofList_toList, String.reduceEq, if_false,
      if_true]

/-- Effects with the same guard and cap do the same if their actions do, and neither tells a line. -/
theorem result_applyEffect_congr {e f : Effect} {a b : Action} (first : e.action? = some a)
    (second : f.action? = some b) (guard : f.guard? = e.guard?) (cap : f.cap? = e.cap?)
    (line : a.line? = none) (noLine : b.line? = none)
    (same : ∀ s cap, (doAction s b cap).result = (doAction s a cap).result) (narrative : Bool)
    (s : State) : (s.applyEffect narrative f).result = (s.applyEffect narrative e).result := by
  rw [result_applyEffect, result_applyEffect, guard, cap, first, second]
  simp only [same, line, noLine]

end State

/-- An action of a text is known from its key and that text. -/
theorem Action.eq_of_text {a b : Action} {s : String} (key : b.key = a.key)
    (first : a.payload = .text s) (second : b.payload = .text s) : b = a := by
  cases a <;> cases b <;> simp_all [Action.key, Action.payload, Item.toValue]

namespace Effect

open Schema

variable {front back : Entries} {key : String} {v : Value} {e : Effect}

/-! Entries with one action among modifiers -/

theorem namedOnce_middle (once : NamedOnce (front ++ back))
    (modifiers : ∀ x ∈ front ++ back, firstName x.1 ∈ modifierKeys) (known : key ∈ actionKeys) :
    NamedOnce (front ++ (key, v) :: back) := by
  have plain : ∀ k ∈ actionKeys, firstName k ∉ modifierKeys := by decide
  have new : firstName key ∉ writtenKeys (front ++ back) := by
    intro mem
    obtain ⟨x, inside, same⟩ := List.mem_map.1 mem
    exact plain key known (same ▸ modifiers x inside)
  have perm : (writtenKeys (front ++ (key, v) :: back)).Perm
      (firstName key :: writtenKeys (front ++ back)) := List.perm_middle.map _
  exact perm.nodup_iff.2 (List.nodup_cons.2 ⟨new, once⟩)

theorem countedKeys_middle (modifiers : ∀ x ∈ front ++ back, firstName x.1 ∈ modifierKeys)
    (known : key ∈ actionKeys) (there : v ≠ .null) :
    countedKeys (front ++ (key, v) :: back) = [key] := by
  have none {es : Entries} (among : ∀ x ∈ es, x ∈ front ++ back) : es.filter counts = [] := by
    rw [List.filter_eq_nil_iff]
    rintro ⟨k, w⟩ mem counted
    exact (counts_iff.1 counted).1 (modifiers _ (among _ mem))
  have first : firstName key = key := firstName_key (List.mem_append_left _ known)
  have plain : ∀ k ∈ actionKeys, k ∉ modifierKeys := by decide
  have counted : counts (key, v) = true :=
    counts_iff.2 ⟨first.symm ▸ plain key known, fun _ => there⟩
  rw [countedKeys, List.filter_append, none fun x => List.mem_append_left _,
    List.filter_cons_of_pos counted, none fun x => List.mem_append_right _]
  exact congrArg ([·]) first

theorem action?_middle (once : NamedOnce (front ++ back))
    (modifiers : ∀ x ∈ front ++ back, firstName x.1 ∈ modifierKeys) (known : key ∈ actionKeys)
    (there : v ≠ .null) (h : read (.mapping (front ++ (key, v) :: back)) = .fits e) :
    ∃ a, e.action? = some a ∧ a.key = key ∧ loaded key v = .fits a.payload := by
  have named : NamedOnce (front ++ (key, v) :: back) := namedOnce_middle once modifiers known
  have last := action?_key h
  rw [named.writtenActions_eq h, countedKeys_middle modifiers known there] at last
  have decided : e.action?.map Action.key = some key := by
    rw [last]
    exact Option.filter_some_pos (by simpa using known)
  obtain ⟨a, does, rfl⟩ := Option.map_eq_some_iff.1 decided
  obtain ⟨k, w, mem, first, -, value⟩ := made_loaded (action?_made h does)
  have here : (a.key, v) ∈ front ++ (a.key, v) :: back := by simp
  obtain ⟨-, rfl⟩ := named.entry_eq mem here
    (first.trans (firstName_key (List.mem_append_left _ known)).symm)
  exact ⟨a, does, rfl, value⟩

/-- A text under the only action key makes an action of that text. -/
theorem action?_text {a : Action} {s : String} (once : NamedOnce (front ++ back))
    (modifiers : ∀ x ∈ front ++ back, firstName x.1 ∈ modifierKeys)
    (h : read (.mapping (front ++ (a.key, .text s) :: back)) = .fits e)
    (text : a.payload = .text s) : e.action? = some a := by
  have known : a.key ∈ actionKeys := by
    cases a <;> simp [Action.key, actionKeys]
  have there : Value.text s ≠ .null := by simp
  obtain ⟨b, does, key, value⟩ := action?_middle once modifiers known there h
  have plain : a.key ≠ "give_item" := by
    cases a <;> simp_all [Action.key, Action.payload, Item.toValue]
  rw [loaded, if_neg plain] at value
  rw [does, Action.eq_of_text key text (Checked.fits.inj value).symm]

/-- What is found under the names of a field does not depend on other entries. -/
theorem fieldUnder_middle {names : List String} {other : String} {w : Value}
    (first : key ∉ names) (second : other ∉ names) :
    fieldUnder (front ++ (other, w) :: back) names = fieldUnder (front ++ (key, v) :: back) names := by
  have same {k : String} (absent : k ≠ key) (absent' : k ≠ other) :
      lookupLast k (front ++ (other, w) :: back) = lookupLast k (front ++ (key, v) :: back) := by
    simp [lookupLast_append, lookupLast, Ne.symm absent, Ne.symm absent']
  induction names with
  | nil => rfl
  | cons n names ih =>
    obtain ⟨here, later⟩ := not_or.1 (List.mem_cons.not.1 first)
    obtain ⟨here', later'⟩ := not_or.1 (List.mem_cons.not.1 second)
    have rest := ih later later'
    unfold fieldUnder at rest ⊢
    rw [List.findSome?_cons, List.findSome?_cons, same (Ne.symm here) (Ne.symm here'), rest]

theorem fieldParts_congr {es fs : Entries} {α : Type} {names : List String} {read : Reader α}
    {part : α → Part} (same : fieldUnder fs names = fieldUnder es names) :
    fieldParts fs names read part = fieldParts es names read part := by
  unfold fieldParts Schema.optional
  rw [same]

variable {f : Effect} {t u : String}

/-- An effect that adds to a path can be read if one that moves a track can. -/
theorem exists_read_add (once : NamedOnce (front ++ back))
    (modifiers : ∀ x ∈ front ++ back, firstName x.1 ∈ modifierKeys)
    (h : read (.mapping (front ++ ("track", .text t) :: back)) = .fits e) :
    ∃ f, read (.mapping (front ++ ("add", .text u) :: back)) = .fits f := by
  have named : NamedOnce (front ++ ("add", .text u) :: back) :=
    namedOnce_middle once modifiers (by decide)
  have same {α : Type} {names : List String} {read : Reader α} {part : α → Part}
      (fit : ∃ l, fieldParts (front ++ ("track", .text t) :: back) names read part = .fits l)
      (first : "track" ∉ names) (second : "add" ∉ names) :
      ∃ l, fieldParts (front ++ ("add", .text u) :: back) names read part = .fits l := by
    rwa [fieldParts_congr (fieldUnder_middle first second)]
  have fields := (read_parts h).1
  simp only [knownParts, List.forall_mem_cons] at fields
  obtain ⟨-, set, -, log, secret, agreement, item, removal, target, guard, cap, -⟩ := fields
  have added : ∃ l, fieldParts (front ++ ("add", .text u) :: back) ["add"] text
      (fun s => .action (.add s)) = .fits l := by
    refine fieldParts_fits fun k v found => ?_
    have here : ("add", .text u) ∈ front ++ ("add", .text u) :: back := by simp
    cases found.symm.trans (named.fieldUnder_eq here (by decide) (by decide))
    exact ⟨u, rfl⟩
  have unmoved : ∃ l, fieldParts (front ++ ("add", .text u) :: back) ["track"] text
      (fun s => .action (.track s)) = .fits l := by
    refine fieldParts_fits fun k v found => ?_
    have mem := lookupLast_mem (fieldUnder_only found)
    have left : ("track", v) ∈ front ++ back := by simpa using mem
    have plain : firstName "track" ∉ modifierKeys := by decide
    exact absurd (modifiers _ left) plain
  refine exists_read ?_
  simp only [knownParts, List.forall_mem_cons]
  exact ⟨added, same set (by decide) (by decide), unmoved, same log (by decide) (by decide),
    same secret (by decide) (by decide), same agreement (by decide) (by decide),
    same item (by decide) (by decide), same removal (by decide) (by decide),
    same target (by decide) (by decide), same guard (by decide) (by decide),
    same cap (by decide) (by decide), List.forall_mem_nil _⟩

/-- The guard of an effect is the text under its names. -/
theorem guard?_eq_some {es : Entries} (once : NamedOnce es) (h : read (.mapping es) = .fits e)
    {c : String} : e.guard? = some c ↔ TextUnder es ["if", "if_"] c := by
  unfold guard?
  refine (findSome?_eq_some (once.parts_keys h) fun p c made => (?_ : p.key = "if")).trans
    ⟨?_, fun made => ?_⟩
  · cases p <;> cases made
    rfl
  · rintro ⟨p, mem, made⟩
    cases p <;> cases made
    exact (mem_parts h).1 mem
  · exact ⟨.guard c, (mem_parts h).2 made, rfl⟩

theorem cap?_eq_some {es : Entries} (once : NamedOnce es) (h : read (.mapping es) = .fits e)
    {n : Number} : e.cap? = some n ↔ Made es (.cap n) := by
  unfold cap?
  refine (findSome?_eq_some (once.parts_keys h) fun p n made => (?_ : p.key = "cap")).trans
    ⟨?_, fun made => ?_⟩
  · cases p <;> cases made
    rfl
  · rintro ⟨p, mem, made⟩
    cases p <;> cases made
    exact (mem_parts h).1 mem
  · exact ⟨.cap n, (mem_parts h).2 made, rfl⟩

/-- Effects have the same guard if the same is found under its names. -/
theorem guard?_congr {es fs : Entries} (once : NamedOnce es) (others : NamedOnce fs)
    (h : read (.mapping es) = .fits e) (h' : read (.mapping fs) = .fits f)
    (same : fieldUnder fs ["if", "if_"] = fieldUnder es ["if", "if_"]) : f.guard? = e.guard? := by
  refine Option.ext fun c => ?_
  rw [guard?_eq_some others h', guard?_eq_some once h, TextUnder, TextUnder, same]

theorem cap?_congr {es fs : Entries} (once : NamedOnce es) (others : NamedOnce fs)
    (h : read (.mapping es) = .fits e) (h' : read (.mapping fs) = .fits f)
    (same : fieldUnder fs ["cap"] = fieldUnder es ["cap"]) : f.cap? = e.cap? := by
  refine Option.ext fun n => ?_
  rw [cap?_eq_some others h', cap?_eq_some once h, Made, Made, same]

end Effect

/-- A track can be moved in two ways. Take an effect with any guard and cap that moves a track as a
text says which does not begin with a blank, well formed or not. The effect that adds to the path of
the tracks with that text behind it can be read as well, and in every state, in the flow of the story
or not, both have the same result: the same state, or the same fault. -/
theorem track_moves_either_way {t : String} (start : ∀ c ∈ t.toList.head?, Text.isBlank c = false)
    {front back : Entries} (once : Effect.NamedOnce (front ++ back))
    (modifiers : ∀ x ∈ front ++ back, Effect.firstName x.1 ∈ modifierKeys) {e : Effect}
    (h : Effect.read (.mapping (front ++ ("track", .text t) :: back)) = .fits e) :
    ∃ f, Effect.read (.mapping (front ++ ("add", .text ("tracks." ++ t)) :: back)) = .fits f ∧
      ∀ (narrative : Bool) (s : State),
        (s.applyEffect narrative f).result = (s.applyEffect narrative e).result := by
  obtain ⟨f, read⟩ := Effect.exists_read_add (u := "tracks." ++ t) once modifiers h
  have tracks : e.action? = some (.track t) := Effect.action?_text once modifiers h rfl
  have adds : f.action? = some (.add ("tracks." ++ t)) := Effect.action?_text once modifiers read rfl
  have named := Effect.namedOnce_middle (v := .text t) once modifiers
    (show "track" ∈ actionKeys by decide)
  have named' := Effect.namedOnce_middle (v := .text ("tracks." ++ t)) once modifiers
    (show "add" ∈ actionKeys by decide)
  have guard : f.guard? = e.guard? :=
    Effect.guard?_congr named named' h read (Effect.fieldUnder_middle (by decide) (by decide))
  have cap : f.cap? = e.cap? :=
    Effect.cap?_congr named named' h read (Effect.fieldUnder_middle (by decide) (by decide))
  refine ⟨f, read, fun narrative s => ?_⟩
  exact State.result_applyEffect_congr tracks adds guard cap rfl rfl
    (fun s cap => State.result_doAdd_tracks start s cap) narrative s

theorem track_moves_either_way_spaced :
    ∃ e f, Effect.read (.mapping [
        ("if_", .text "true"), ("track", .text "eco.pollution ,  2"), ("cap", .int 4)]) = .fits e ∧
      Effect.read (.mapping [
        ("if_", .text "true"), ("add", .text ("tracks." ++ "eco.pollution ,  2")),
        ("cap", .int 4)]) = .fits f ∧
      ∀ (narrative : Bool) (s : State),
        (s.applyEffect narrative f).result = (s.applyEffect narrative e).result := by
  have start : ∀ c ∈ "eco.pollution ,  2".toList.head?, Text.isBlank c = false := by
    rintro c ⟨⟩
    rfl
  have fields : ∀ c ∈ Effect.knownParts [
      ("if_", .text "true"), ("track", .text "eco.pollution ,  2"), ("cap", .int 4)],
      ∃ l, c = .fits l := by
    simp only [Effect.knownParts, List.forall_mem_cons]
    exact ⟨⟨_, rfl⟩, ⟨_, rfl⟩, ⟨_, rfl⟩, ⟨_, rfl⟩, ⟨_, rfl⟩, ⟨_, rfl⟩, ⟨_, rfl⟩, ⟨_, rfl⟩,
      ⟨_, rfl⟩, ⟨_, rfl⟩, ⟨_, rfl⟩, List.forall_mem_nil _⟩
  obtain ⟨e, fit⟩ := Effect.exists_read fields
  have once : Effect.NamedOnce ([("if_", .text "true")] ++ [("cap", .int 4)]) := by
    unfold Effect.NamedOnce
    decide
  obtain ⟨f, read, same⟩ := track_moves_either_way start once (by decide) fit
  exact ⟨e, f, fit, read, same⟩

end Storyworld
