import Storyworld.Proofs.Pattern.Inside
import Storyworld.Proofs.Pattern.Shifted

/-!
The elements of a pattern that are no groups, read by themselves and inside of one more group, and
the beginning and the end of groups. The elements are the same but for the numbers of the groups
that they refer to, as long as they do so by name.
-/

namespace Storyworld.Pattern

variable {α β β' : Type} {σ τ σ' : Progress} {wanted' : β → Progress → Prop} {R' : β → β' → Prop}
  {y : Parse β} {y' : Parse β'}

/-! References -/

/-- The number of a group, and that of the same group inside of one more. -/
def Next (i j : Nat) : Prop :=
  j = i + 1 ∧ 0 < i

theorem Inside.isClosed {i : Nat} (positive : 0 < i) (inside : Inside σ τ) :
    (τ.widths[i + 1 - 1]?.getD none).isSome = (σ.widths[i - 1]?.getD none).isSome := by
  rw [inside.widths]
  obtain ⟨i, rfl⟩ := Nat.exists_eq_add_of_lt positive
  simp

theorem isClosed_run {i : Nat} (positive : 0 < i) (σ : Progress) :
    (isClosed i).run σ = .ok ((σ.widths[i - 1]?.getD none).isSome, σ) := by
  unfold Pattern.isClosed
  rw [if_neg (Nat.ne_of_gt positive)]
  rfl

theorem agrees_isClosed {i j : Nat} (next : Next i j) : Agrees (isClosed i) (isClosed j) := by
  obtain ⟨rfl, positive⟩ := next
  apply Follows.of
  intro σ τ b σ' inside done _
  rw [isClosed_run positive] at done
  cases done
  refine ⟨_, τ, isClosed_run (Nat.succ_pos i) τ, ?_, inside⟩
  exact (inside.isClosed positive).symm

theorem follows_groupCount : Follows (fun _ _ => True) Next groupCount groupCount := by
  apply Follows.of
  intro σ τ i σ' inside done _
  cases done
  refine ⟨τ.widths.length + 1, τ, rfl, ⟨?_, Nat.succ_pos _⟩, inside⟩
  rw [inside.widths, List.length_cons]

theorem agrees_checkBehind {i j : Nat} (next : Next i j) :
    Agrees (checkBehind i) (checkBehind j) := by
  constructor
  intro σ τ inside
  apply FollowsFrom.get_bind
  rw [inside.behind]
  cases σ.behind with
  | none => exact (agrees_pure ()).each inside
  | some count =>
    apply ((agrees_isClosed next).andThen _).each inside
    intro closed
    apply follows_ite .rfl (fun _ => follows_failBefore_bind ..)
    intro _
    apply follows_ite _ (fun _ => follows_failBefore ..)
    · exact fun _ => agrees_pure ()
    · rw [next.1]
      exact Nat.succ_le_succ_iff.symm

theorem Inside.find_name (inside : Inside σ τ) (name : List Char) :
    (τ.names.find? fun e => e.1 = name) =
      (σ.names.find? fun e => e.1 = name).map fun e => (e.1, e.2 + 1) := by
  rw [inside.names, List.find?_map]
  rfl

theorem follows_groupNamed (name : List Char) :
    Follows (fun _ _ => True) Next (groupNamed name) (groupNamed name) := by
  constructor
  intro σ τ inside
  apply FollowsFrom.get_bind
  rw [inside.find_name]
  cases found : σ.names.find? fun e => e.1 = name with
  | none => exact (follows_failBefore ..).each inside
  | some e =>
    have positive : 0 < e.2 := inside.named e (List.mem_of_find?_eq_some found)
    exact (follows_pure ⟨rfl, positive⟩).each inside

/-! Nodes -/

/-- A node, and that which is read inside of one more group. -/
def NodeAlike (n n' : Node) : Prop :=
  n' = n.shifted ∧ n.counted = true

def NodesAlike (ns ns' : List Node) : Prop :=
  ns' = ns.map Node.shifted ∧ ns.all Node.counted = true

theorem reference_numbered {text : List Char} {n : Node}
    (done : (reference text).run σ = .ok (n, σ')) : n.byName = false := by
  obtain ⟨count, _, -, done⟩ := run_bind_eq_ok.1 done
  split at done
  · obtain ⟨closed, _, -, done⟩ := run_bind_eq_ok.1 done
    split at done
    · cases done
    · obtain ⟨_, _, -, ⟨⟩⟩ := run_bind_eq_ok.1 done
      rfl
  · cases done

/-- A reference by number is not wanted. -/
theorem follows_reference {y' : Parse Node} (text : List Char) :
    Follows (fun n _ => n.byName = true) NodeAlike (reference text) y' := by
  apply Follows.of
  intro σ τ n σ' _ done byName
  rw [reference_numbered done] at byName
  cases byName

theorem nodeAlike_char (n : Nat) (negated : Bool) : NodeAlike (.char n negated) (.char n negated) :=
  ⟨rfl, rfl⟩

theorem follows_digitEscape (c : Char) :
    Follows (fun n _ => n.byName = true) NodeAlike (digitEscape c) (digitEscape c) := by
  apply follows_next?_bind
  · exact follows_reference _
  intro σ τ p inside next
  cases p with
  | escaped d => exact (follows_reference _).each inside
  | plain d =>
    dsimp only
    split
    · apply (advance_follows inside (by simp [next])).bind _ fun _ _ _ => trivial
      intro _ _ ρ ρ' _ _ inside
      refine (follows_next?_bind (follows_reference _) ?_).each inside
      intro σ τ p inside next
      cases p with
      | escaped e => exact (follows_reference _).each inside
      | plain e =>
        dsimp only
        split
        · apply (advance_follows inside (by simp [next])).bind _ fun _ _ _ => trivial
          intro _ _ ρ ρ' _ _ inside
          refine (follows_ite .rfl (fun _ => follows_failBefore_bind ..) fun _ => ?_).each inside
          exact follows_pure (nodeAlike_char _ _)
        · exact (follows_reference _).each inside
    · exact (follows_reference _).each inside

theorem follows_escape (c : Char) :
    Follows (fun n _ => n.byName = true) NodeAlike (escape c) (escape c) := by
  unfold escape
  split
  · exact follows_pure ⟨rfl, rfl⟩
  · exact follows_pure ⟨rfl, rfl⟩
  · exact follows_pure ⟨rfl, rfl⟩
  · split
    · exact (agrees_hexEscape ..).andThen fun _ => follows_pure (nodeAlike_char _ _)
    split
    · exact (agrees_hexEscape ..).andThen fun _ => follows_pure (nodeAlike_char _ _)
    split
    · exact (agrees_hexEscape ..).andThen fun _ => follows_pure (nodeAlike_char _ _)
    split
    · exact agrees_namedEscape.andThen fun _ => follows_pure (nodeAlike_char _ _)
    split
    · exact (agrees_takeSome (by decide) 2).andThen fun _ => follows_pure (nodeAlike_char _ _)
    split
    · exact follows_digitEscape c
    · exact (agrees_letterEscape c).andThen fun _ => follows_pure (nodeAlike_char _ _)

/-! Switches -/

theorem agrees_failFlag {α : Type} (what : String) (p : Piece) :
    Agrees (failFlag what p : Parse α) (failFlag what p) :=
  follows_failBefore ..

theorem flagsOn_inside {on f : Flags} {c : Char} {n m : Nat} (inside : Inside σ τ)
    (enough : Enough n m σ) :
    FollowsFrom σ τ (fun _ _ => True) Eq (flagsOn on c f n) (flagsOn on c f m) := by
  induction n generalizing m σ τ on c f with
  | zero =>
    obtain rfl := enough.zero
    exact (agrees_pure _).each inside
  | succ n ih =>
    obtain ⟨m, rfl, less⟩ := enough.succ
    unfold flagsOn
    split
    · exact (follows_failBefore_bind ..).each inside
    dsimp only
    split
    · exact (follows_failBefore_bind ..).each inside
    apply FollowsFrom.take?_bind inside fun _ => ⟨_, rfl⟩
    intro p ρ ρ' step inside
    dsimp only
    split
    · exact (agrees_pure _).each inside
    · split
      · exact ih inside (less (take?_pieces step))
      · exact (agrees_failFlag ..).each inside

theorem flagsOff_inside {off f : Flags} {c : Char} {n m : Nat} (inside : Inside σ τ)
    (enough : Enough n m σ) :
    FollowsFrom σ τ (fun _ _ => True) Eq (flagsOff off c f n) (flagsOff off c f m) := by
  induction n generalizing m σ τ off c f with
  | zero =>
    obtain rfl := enough.zero
    exact (agrees_pure _).each inside
  | succ n ih =>
    obtain ⟨m, rfl, less⟩ := enough.succ
    unfold flagsOff
    split
    · exact (follows_failBefore_bind ..).each inside
    apply FollowsFrom.take?_bind inside fun _ => ⟨_, rfl⟩
    intro p ρ ρ' step inside
    dsimp only
    split
    · exact (agrees_pure _).each inside
    · split
      · exact ih inside (less (take?_pieces step))
      · exact (agrees_failFlag ..).each inside

theorem agrees_readOn (first : Piece) : Agrees (readOn first) (readOn first) := by
  constructor
  intro σ τ inside
  unfold readOn
  split
  · exact .get_bind (flagsOn_inside inside inside.enough)
  · exact (agrees_pure _).each inside

theorem agrees_readOff (stop : Piece) : Agrees (readOff stop) (readOff stop) := by
  apply follows_ite .rfl _ fun _ => agrees_pure _
  intro _
  apply follows_take?_bind fun _ => ⟨_, rfl⟩
  intro p
  dsimp only
  split
  · exact ⟨fun inside => .get_bind (flagsOff_inside inside inside.enough)⟩
  · exact agrees_failFlag ..

theorem agrees_readFlags (p : Piece) : Agrees (readFlags p) (readFlags p) := by
  apply (agrees_readOn p).andThen
  intro r
  apply follows_ite .rfl
  · intro _
    apply Follows.of
    intro σ τ a σ' inside done _
    cases done
    refine ⟨none, { τ with flags := τ.flags.union r.1 }, rfl, rfl, { inside with flags := ?_ }⟩
    rw [inside.flags]
  · intro _
    apply follows_ite .rfl (fun _ => follows_failBefore_bind ..)
    intro _
    apply (agrees_readOff _).andThen
    intro off
    apply follows_ite .rfl (fun _ => follows_failBefore_bind ..)
    intro _
    apply follows_ite .rfl (fun _ => follows_failBefore_bind ..)
    intro _
    exact agrees_pure _

/-! Sets -/

theorem agrees_memberOf (p : Piece) : Agrees (memberOf p) (memberOf p) := by
  cases p with
  | plain c => exact agrees_pure _
  | escaped c => exact agrees_classEscape c

theorem agrees_readMembers {start start' n m : Nat} (le : n ≤ m) (parts : List ClassPart) :
    Agrees (readMembers start parts n) (readMembers start' parts m) := by
  induction n generalizing m parts with
  | zero => exact follows_failAt ..
  | succ n ih =>
    cases m with
    | zero => exact absurd le (Nat.not_succ_le_zero n)
    | succ m =>
      have ih := fun parts => ih (Nat.le_of_succ_le_succ le) parts
      unfold readMembers
      apply follows_take?_bind fun _ => ⟨_, rfl⟩
      intro this
      apply follows_ite .rfl (fun _ => agrees_pure _)
      intro _
      apply (agrees_memberOf this).andThen
      intro first
      apply (agrees_accept (by decide)).andThen
      intro dash
      apply follows_ite .rfl (fun _ => ih _)
      intro _
      apply follows_take?_bind fun _ => ⟨_, rfl⟩
      intro that
      apply follows_ite .rfl (fun _ => agrees_pure _)
      intro _
      apply (agrees_memberOf that).andThen
      intro last
      dsimp only
      split
      · exact follows_ite .rfl (fun _ => follows_failBefore ..) fun _ => ih _
      · exact follows_failBefore ..

theorem follows_readSet : Follows (fun _ _ => True) NodeAlike readSet readSet := by
  apply follows_here.andThen
  intro _ _ _
  apply (agrees_accept (by decide)).andThen
  intro negated
  constructor
  intro σ τ inside
  apply FollowsFrom.get_bind
  apply ((agrees_readMembers inside.enough.le []).andThen _).each inside
  intro parts
  split
  · exact follows_pure (nodeAlike_char _ _)
  · exact follows_pure ⟨rfl, rfl⟩

/-! Repetitions -/

theorem agrees_countOf (ds : List Char) : Agrees (countOf ds) (countOf ds) := by
  unfold countOf
  split
  · exact follows_of_fails fun _ => ⟨_, rfl⟩
  · exact agrees_pure _

theorem agrees_countsOf (lo hi : List Char) (place place' : Nat) :
    Agrees (countsOf lo hi place) (countsOf lo hi place') := by
  apply (agrees_countOf lo).andThen
  intro least
  apply follows_ite .rfl (fun _ => agrees_pure _)
  intro _
  apply (agrees_countOf hi).andThen
  intro most
  apply follows_ite .rfl (fun _ => follows_failAt_bind ..)
  intro _
  exact agrees_pure _

theorem agrees_readMost (lo : List Char) : Agrees (readMost lo) (readMost lo) := by
  apply (agrees_accept (by decide)).andThen
  intro comma
  exact follows_ite .rfl (fun _ => agrees_takeAll (by decide)) fun _ => agrees_pure lo

theorem agrees_restore {saved saved' : Progress} (before : Inside saved saved') :
    Agrees (restore saved) (restore saved') := by
  apply Follows.of
  intro σ τ _ σ' inside done _
  cases done
  exact ⟨(), _, rfl, rfl, { inside with text := before.text }⟩

theorem agrees_readCounts : Agrees readCounts readCounts := by
  constructor
  intro σ τ inside
  apply FollowsFrom.get_bind
  have brace : σ.next = some (.plain '\x7d') ↔ τ.next = some (.plain '\x7d') := by
    rw [inside.text.seen]
    cases σ.next with
    | none => decide
    | some p => rfl
  refine (follows_ite brace (fun _ => agrees_pure _) fun _ => ?_).each inside
  apply (agrees_takeAll (by decide)).andThen
  intro lo
  apply (agrees_readMost lo).andThen
  intro hi
  apply (agrees_accept (by decide)).andThen
  intro closed
  apply follows_ite .rfl
  · intro _
    apply (agrees_countsOf ..).andThen
    exact fun _ => agrees_pure _
  · intro _
    apply (agrees_restore inside).andThen
    exact fun _ => agrees_pure _

theorem agrees_repetition? (c : Char) : Agrees (repetition? c) (repetition? c) := by
  unfold repetition?
  split
  · exact agrees_pure _
  · exact agrees_pure _
  · exact agrees_pure _
  · exact agrees_readCounts
  · exact agrees_pure _

theorem agrees_readGreed : Agrees readGreed readGreed := by
  apply (agrees_accept (by decide)).andThen
  intro once
  apply follows_ite .rfl (fun _ => agrees_pure _)
  intro _
  apply (agrees_accept (by decide)).andThen
  intro again
  exact follows_ite .rfl (fun _ => agrees_pure _) fun _ => agrees_pure _

/-! Elements -/

namespace Element

def shifted : Element → Element
  | node n => node n.shifted
  | bundle ns => bundle (ns.map Node.shifted)

def counted (e : Element) : Bool :=
  e.nodes.all Node.counted

@[simp] theorem shifted_node (n : Node) : (node n).shifted = node n.shifted := rfl

@[simp] theorem nodes_shifted (e : Element) : e.shifted.nodes = e.nodes.map Node.shifted := by
  cases e with
  | node n => rfl
  | bundle ns => rfl

end Element

/-- Elements, and those that are read inside of one more group. -/
def ElementsAlike (es es' : List Element) : Prop :=
  es' = es.map Element.shifted ∧ es.all Element.counted = true

theorem ElementsAlike.cons {e : Element} {es es' : List Element} (rest : ElementsAlike es es')
    (counted : e.counted = true) : ElementsAlike (e :: es) (e.shifted :: es') := by
  refine ⟨congrArg _ rest.1, ?_⟩
  rw [List.all_cons, counted, rest.2]
  rfl

theorem ElementsAlike.nodes {es es' : List Element} (alike : ElementsAlike es es') :
    NodesAlike (nodesOf es) (nodesOf es') := by
  obtain ⟨rfl, counted⟩ := alike
  constructor
  · simp [nodesOf, ← List.map_reverse, List.flatMap_map, List.map_flatMap]
  · simpa [nodesOf, Element.counted] using counted

theorem NodesAlike.seqOf {ns ns' : List Node} (alike : NodesAlike ns ns') :
    NodeAlike (seqOf ns) (seqOf ns') := by
  obtain ⟨rfl, counted⟩ := alike
  exact ⟨(shifted_seqOf ns).symm, (counted_seqOf ns).trans counted⟩

theorem follows_repeatLast {place place' : Nat} (counts : Nat × Option Nat)
    {es es' : List Element} (alike : ElementsAlike es es') :
    Follows (fun _ _ => True) ElementsAlike (repeatLast place counts es)
      (repeatLast place' counts es') := by
  obtain ⟨rfl, counted⟩ := alike
  cases es with
  | nil => exact follows_failAt ..
  | cons e rest =>
    rw [List.all_cons, Bool.and_eq_true] at counted
    have general :
        Follows (fun _ _ => True) ElementsAlike
          (readGreed >>= fun greed =>
            pure (.node (.rep greed counts.1 counts.2 (seqOf e.nodes)) :: rest))
          (readGreed >>= fun greed =>
            pure (.node (.rep greed counts.1 counts.2 (seqOf e.shifted.nodes)) ::
              rest.map Element.shifted)) := by
      apply agrees_readGreed.andThen
      intro greed
      apply follows_pure
      refine ⟨by simp [Node.shifted], ?_⟩
      rw [List.all_cons, counted.2, Bool.and_true]
      simpa [Element.counted, Element.nodes, Node.counted] using counted.1
    cases e with
    | bundle ns => exact general
    | node n =>
      cases n with
      | anchor a => exact follows_failAt ..
      | rep greed least most body => exact follows_failAt ..
      | _ => exact general

/-! Names and conditions -/

theorem agrees_checkName (name : List Char) : Agrees (checkName name) (checkName name) :=
  follows_ite .rfl (fun _ => agrees_pure ()) fun _ => follows_failBefore ..

theorem follows_namedReference :
    Follows (fun _ _ => True) NodeAlike namedReference namedReference := by
  apply (agrees_takeName ..).andThen
  intro name
  apply (agrees_checkName name).andThen
  intro _
  apply (follows_groupNamed name).andThen
  intro i j next
  apply (agrees_isClosed next).andThen
  intro closed
  apply follows_ite .rfl (fun _ => follows_failBefore_bind ..)
  intro _
  apply (agrees_checkBehind next).andThen
  intro _
  apply follows_pure
  obtain ⟨rfl, positive⟩ := next
  exact ⟨rfl, decide_eq_true positive⟩

theorem follows_readCondition :
    Follows (fun r _ => r.2 = true) (fun r r' => Next r.1 r'.1 ∧ r'.2 = r.2) readCondition
      readCondition := by
  apply (agrees_takeName ..).andThen
  intro name
  dsimp only
  split
  · rename_i named
    apply (follows_groupNamed name).andThen
    intro i j next
    apply (agrees_checkBehind next).andThen
    intro _
    exact follows_pure ⟨next, rfl⟩
  · rename_i numbered
    apply Follows.of
    intro _ _ r _ _ done named
    obtain ⟨i, _, -, done⟩ := run_bind_eq_ok.1 done
    obtain ⟨_, _, -, ⟨⟩⟩ := run_bind_eq_ok.1 done
    exact absurd named numbered

/-! Looks, comments and groups -/

theorem agrees_modify {g g' : Progress → Progress}
    (same : ∀ {σ τ}, Inside σ τ → Inside (g σ) (g' τ)) :
    Agrees (modify g : Parse Unit) (modify g') := by
  apply Follows.of
  intro σ τ _ σ' inside done _
  cases done
  exact ⟨(), g' τ, rfl, rfl, same inside⟩

theorem agrees_beginLook (ahead : Bool) : Agrees (beginLook ahead) (beginLook ahead) := by
  constructor
  intro σ τ inside
  apply FollowsFrom.get_bind
  have begins : (!ahead && σ.behind.isNone) = true ↔ (!ahead && τ.behind.isNone) = true := by
    rw [inside.behind, Option.isNone_map]
  refine (follows_ite begins (fun _ => ?_) fun _ => agrees_pure false).each inside
  apply Follows.andThen
  · apply agrees_modify
    intro σ τ inside
    exact { inside with behind := by simp [inside.widths] }
  · exact fun _ _ _ => agrees_pure true

theorem agrees_endLook (outermost : Bool) : Agrees (endLook outermost) (endLook outermost) := by
  apply agrees_modify
  intro σ τ inside
  split
  · exact { inside with behind := rfl }
  · exact inside

theorem SameText.of_none {p : Option Piece} {rest rest' : List Char}
    (h : SameText none rest p rest') : rest = [] ∧ p = some (.plain ')') ∧ rest' = [] := by
  cases h with
  | ended => exact ⟨rfl, rfl, rfl⟩

/-- Where a pattern has ended only the parenthesis is left. -/
theorem Inside.ended (inside : Inside σ τ) (ended : σ.next = none) :
    σ.rest = [] ∧ τ.next = some (.plain ')') ∧ τ.rest = [] :=
  SameText.of_none (ended ▸ inside.text)

theorem take?_ended (inside : Inside σ τ) (done : take?.run σ = .ok (none, σ')) :
    σ'.next = none := by
  obtain ⟨_, _, ⟨⟩, done⟩ := run_bind_eq_ok.1 done
  obtain ⟨_, ρ, step, same⟩ := run_bind_eq_ok.1 done
  obtain ⟨next, rfl⟩ := Prod.mk.inj (Except.ok.inj same)
  have ended : σ.rest = [] := (inside.ended next).1
  obtain ⟨_, _, ⟨⟩, step⟩ := run_bind_eq_ok.1 step
  rw [ended] at step
  cases step
  rfl

/-- A comment that ends with the pattern would go on to the parenthesis. -/
theorem skipTo_inside {stop : Char} {n m : Nat} (inside : Inside σ τ) (enough : Enough n m σ) :
    FollowsFrom σ τ (fun there σ' => there = true ∨ σ'.next.isSome = true) Eq (skipTo stop n)
      (skipTo stop m) := by
  induction n generalizing m σ τ with
  | zero =>
    obtain rfl := enough.zero
    exact (follows_pure rfl).each inside
  | succ n ih =>
    obtain ⟨m, rfl, less⟩ := enough.succ
    unfold skipTo
    apply (follows_take?.each inside).bind
    · intro p _ ρ ρ' step same inside
      cases same
      cases p with
      | none => exact (follows_pure rfl).each inside
      | some p =>
        dsimp only
        split
        · exact (follows_pure rfl).each inside
        · exact ih inside (less (take?_pieces step))
    · intro p ρ _ _ step done want
      cases p with
      | none =>
        cases done
        simp [take?_ended inside step] at want
      | some p => rfl

theorem follows_skipComment (stop : Char) :
    Follows (fun there σ' => there = true ∨ σ'.next.isSome = true) Eq (skipComment stop)
      (skipComment stop) :=
  ⟨fun inside => .get_bind (skipTo_inside inside inside.enough)⟩

theorem agrees_closeParen (start start' : Nat) :
    Agrees (closeParen start) (closeParen start') := by
  apply (follows_accept ')').bind
  · intro there _ same
    cases same
    exact follows_ite .rfl (fun _ => follows_failAt ..) fun _ => agrees_pure ()
  · intro there _ _ _ done _
    cases there with
    | false => cases done
    | true => exact .inl rfl

theorem follows_openGroup (name : Option (List Char)) :
    Follows (fun _ _ => True) Next (openGroup name) (openGroup name) := by
  apply follows_groupCount.andThen
  intro i j next
  apply Follows.andThen
  · apply agrees_modify
    intro σ τ inside
    exact { inside with widths := by simp [inside.widths] }
  · intro _ _ _
    cases name with
    | none => exact follows_pure next
    | some name =>
      constructor
      intro σ τ inside
      apply FollowsFrom.get_bind
      rw [inside.find_name]
      cases σ.names.find? fun e => e.1 = name with
      | some e => exact (follows_failBefore ..).each inside
      | none =>
        refine (Follows.andThen (R := Eq) ?_ fun _ _ _ => follows_pure next).each inside
        apply agrees_modify
        intro σ τ inside
        refine { inside with names := ?_, named := ?_ }
        · simp [inside.names, next.1]
        · intro e mem
          obtain before | new := List.mem_append.1 mem
          · exact inside.named e before
          · rw [List.mem_singleton.1 new]
            exact next.2

theorem agrees_closeGroup {i j : Nat} {body body' : Node} (next : Next i j)
    (alike : NodeAlike body body') : Agrees (closeGroup i body) (closeGroup j body') := by
  apply agrees_modify
  intro σ τ inside
  obtain ⟨rfl, positive⟩ := next
  obtain ⟨i, rfl⟩ := Nat.exists_eq_add_of_lt positive
  refine { inside with widths := ?_ }
  have width := width_shifted (widthOf_beside σ.widths none) alike.2
  rw [inside.widths, alike.1, width]
  simp

end Storyworld.Pattern
