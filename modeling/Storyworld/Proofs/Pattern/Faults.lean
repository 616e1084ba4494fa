import Storyworld.Proofs.Pattern.Reading

/-!
The faults of reading a pattern. A count in braces may be too large or too long, and switches at the
front may contradict each other; all other trouble is a complaint about the form.
-/

namespace Storyworld.Pattern

variable {α β : Type} {y : Parse β} {keeps : β → Prop} {taken : List Char}

/-! Counts in braces -/

theorem accept_left {c : Char} {σ σ' : Progress} (done : (accept c).run σ = .ok (true, σ')) :
    σ.left = c :: σ'.left := by
  obtain ⟨-, next, step⟩ | ⟨⟨⟩, -⟩ := accept_cases done
  rw [left_of_next next, (advance_left step).1]
  rfl

theorem takeSome_left {chars : List Char} {n : Nat} {cs : List Char} {σ σ' : Progress}
    (done : (takeSome chars n).run σ = .ok (cs, σ')) :
    σ.left = cs ++ σ'.left ∧ ∀ c ∈ cs, c ∈ chars := by
  induction n generalizing σ cs with
  | zero =>
    cases done
    simp
  | succ n ih =>
    obtain ⟨p, _, ⟨⟩, done⟩ := run_bind_eq_ok.1 done
    split at done
    · rename_i p next
      split at done
      · rename_i among
        obtain ⟨_, ρ, step, done⟩ := run_bind_eq_ok.1 done
        obtain ⟨more, _, others, ⟨⟩⟩ := run_bind_eq_ok.1 done
        obtain ⟨rest, inside⟩ := ih others
        cases p with
        | escaped c => cases among
        | plain c =>
          have first : c ∈ chars := List.contains_iff_mem.1 among
          constructor
          · rw [left_of_next next, ← (advance_left step).1, rest, List.append_assoc]
          · simpa [Piece.text, first] using inside
      · cases done
        simp
    · cases done
      simp

theorem takeAll_left {chars cs : List Char} {σ σ' : Progress}
    (done : (takeAll chars).run σ = .ok (cs, σ')) :
    σ.left = cs ++ σ'.left ∧ ∀ c ∈ cs, c ∈ chars := by
  obtain ⟨p, _, ⟨⟩, done⟩ := run_bind_eq_ok.1 done
  exact takeSome_left done

@[simp] theorem tame_readMost (lo : List Char) : Tame (readMost lo) := by
  apply (tame_accept _).bind
  intro comma
  simp

/-- The digits of the counts, with the comma between them, stand at the front of the text. -/
theorem readMost_left {lo hi : List Char} {σ σ' : Progress}
    (digits : ∀ c ∈ lo, c ∈ digitChars) (done : (readMost lo).run σ = .ok (hi, σ')) :
    (∀ c ∈ hi, c ∈ digitChars) ∧
      (hi = lo ∧ σ.left = σ'.left ∨ σ.left = ',' :: hi ++ σ'.left) := by
  obtain ⟨comma, ρ, there, done⟩ := run_bind_eq_ok.1 done
  cases comma with
  | true =>
    obtain ⟨rest, inside⟩ := takeAll_left done
    refine ⟨inside, .inr ?_⟩
    rw [accept_left there, rest, List.cons_append]
  | false =>
    cases done
    obtain ⟨⟨⟩, -⟩ | ⟨-, -, rfl⟩ := accept_cases there
    exact ⟨digits, .inl ⟨rfl, rfl⟩⟩

theorem countOf_run (ds : List Char) (σ : Progress) :
    (countOf ds).run σ =
      match countFault? ds with
      | some f => .error (.fault f)
      | none => .ok (countValue ds, σ) := by
  unfold countOf
  cases countFault? ds with
  | none => rfl
  | some f => rfl

theorem countsOf_same {lo hi : List Char} {place : Nat} {counts : Nat × Option Nat}
    {σ σ' : Progress} (done : (countsOf lo hi place).run σ = .ok (counts, σ')) : σ' = σ := by
  obtain ⟨least, ρ, first, done⟩ := run_bind_eq_ok.1 done
  have first : ρ = σ := by
    rw [countOf_run] at first
    split at first <;> cases first
    rfl
  split at done
  · cases done
    exact first
  · obtain ⟨most, ρ', second, done⟩ := run_bind_eq_ok.1 done
    have second : ρ' = ρ := by
      rw [countOf_run] at second
      split at second <;> cases second
      rfl
    split at done
    · cases done
    · cases done
      rw [second, first]

theorem countsOf_fault {lo hi : List Char} {place : Nat} {f : Fault} {σ : Progress}
    (stopped : (countsOf lo hi place).run σ = .error (.fault f)) :
    countFault? lo = some f ∨ countFault? hi = some f := by
  have fault {ds : List Char} {σ : Progress}
      (stopped : (countOf ds).run σ = .error (.fault f)) : countFault? ds = some f := by
    rw [countOf_run] at stopped
    split at stopped
    · cases stopped
      assumption
    · cases stopped
  obtain first | ⟨least, ρ, -, stopped⟩ := run_bind_eq_error.1 stopped
  · exact .inl (fault first)
  · split at stopped
    · cases stopped
    · obtain second | ⟨most, ρ', -, stopped⟩ := run_bind_eq_error.1 stopped
      · exact .inr (fault second)
      · split at stopped <;> cases stopped

theorem reads_readCounts : Reads ['\x7b'] (fun _ => True) readCounts := by
  have shape {σ σ' : Progress} {r : Option (Nat × Option Nat)}
      (done : readCounts.run σ = .ok (r, σ')) : σ'.left <:+ σ.left ∧ σ'.flags = σ.flags := by
    obtain ⟨_, _, ⟨⟩, done⟩ := run_bind_eq_ok.1 done
    split at done
    · cases done
      exact ⟨List.suffix_rfl, rfl⟩
    · obtain ⟨lo, ρ₁, first, done⟩ := run_bind_eq_ok.1 done
      obtain ⟨hi, ρ₂, second, done⟩ := run_bind_eq_ok.1 done
      obtain ⟨brace, ρ₃, third, done⟩ := run_bind_eq_ok.1 done
      have text := ((tame_accept _).left third).trans
        (((tame_readMost lo).left second).trans ((tame_takeAll _).left first))
      have flags : ρ₃.flags = σ.flags := by
        rw [(tame_accept _).same third trivial, (tame_readMost lo).same second trivial,
          (tame_takeAll _).same first trivial]
      cases brace with
      | true =>
        obtain ⟨counts, _, last, ⟨⟩⟩ := run_bind_eq_ok.1 done
        cases countsOf_same last
        exact ⟨text, flags⟩
      | false =>
        cases done
        exact ⟨List.suffix_rfl, flags⟩
  apply Reads.mk
  intro σ
  constructor
  case left => exact fun done => (shape done).1
  case grows => exact fun done none => (shape done).2.symm.trans none
  case same => exact fun done _ => (shape done).2
  case fault =>
    intro f stopped
    obtain ⟨⟨⟩⟩ | ⟨_, _, ⟨⟩, stopped⟩ := run_bind_eq_error.1 stopped
    split at stopped
    · cases stopped
    · obtain h | ⟨lo, ρ₁, first, stopped⟩ := run_bind_eq_error.1 stopped
      · exact (tame_takeAll digitChars).after.fault h
      have shorter := (tame_takeAll _).left first
      obtain h | ⟨hi, ρ₂, second, stopped⟩ := run_bind_eq_error.1 stopped
      · exact ((tame_readMost lo).fault h).mono (shorter.trans (List.suffix_cons ..)).isInfix
      have shorter := ((tame_readMost lo).left second).trans shorter
      obtain h | ⟨brace, ρ₃, third, stopped⟩ := run_bind_eq_error.1 stopped
      · exact ((tame_accept _).fault h).mono (shorter.trans (List.suffix_cons ..)).isInfix
      cases brace with
      | false => cases stopped
      | true =>
        obtain large | ⟨_, _, -, ⟨⟩⟩ := run_bind_eq_error.1 stopped
        obtain ⟨rest, low⟩ := takeAll_left first
        obtain ⟨high, same | comma⟩ := readMost_left low second
        · obtain ⟨rfl, here⟩ := same
          refine ⟨hi, none, hi, .inl rfl, by simpa using low, ?_,
            List.IsPrefix.isInfix ⟨ρ₃.left, ?_⟩⟩
          · exact (countsOf_fault large).elim id id
          · simp [braces, rest, here, accept_left third]
        · have place : braces lo (some hi) <+: ['\x7b'] ++ σ.left :=
            ⟨ρ₃.left, by simp [braces, rest, comma, accept_left third]⟩
          have digits : ∀ c ∈ lo ++ hi, c ∈ digitChars := by
            intro c mem
            exact (List.mem_append.1 mem).elim (low c) (high c)
          obtain large | large := countsOf_fault large
          · exact ⟨lo, some hi, lo, .inl rfl, digits, large, place.isInfix⟩
          · exact ⟨lo, some hi, hi, .inr rfl, digits, large, place.isInfix⟩

theorem reads_repetition? (c : Char) : Reads [c] (fun _ => True) (repetition? c) := by
  unfold repetition?
  split
  · simp
  · simp
  · simp
  · exact reads_readCounts
  · simp

/-! Branches, sequences and groups -/

theorem ReadsFrom.congr {z : Parse β} {σ : Progress} (h : ReadsFrom σ taken keeps z)
    (same : y.run σ = z.run σ) : ReadsFrom σ taken keeps y := by
  constructor
  case left => exact fun done => h.left (same.symm.trans done)
  case grows => exact fun done => h.grows (same.symm.trans done)
  case same => exact fun done => h.same (same.symm.trans done)
  case fault => exact fun stopped => h.fault (same.symm.trans stopped)

theorem reads_here_bind {g : Nat → Parse β} (later : ∀ place, Reads taken keeps (g place)) :
    Reads taken keeps (here >>= g) :=
  ⟨fun σ => ((later σ.place).each σ).congr rfl⟩

/-- A piece that was taken belongs to the text from which the reading began. -/
theorem reads_take {p : Piece} (later : Reads p.text keeps y) {σ : Progress}
    (next : σ.next = some p) : ReadsFrom σ [] keeps (advance >>= fun _ => y) := by
  constructor
  case left =>
    intro σ' b done
    obtain ⟨_, ρ, step, done⟩ := run_bind_eq_ok.1 done
    exact (later.left done).trans (tame_advance.left step)
  case grows =>
    intro σ' b done none
    obtain ⟨_, ρ, step, done⟩ := run_bind_eq_ok.1 done
    exact tame_advance.grows step (later.grows done none)
  case same =>
    intro σ' b done kept
    obtain ⟨_, ρ, step, done⟩ := run_bind_eq_ok.1 done
    rw [later.same done kept, tame_advance.same step trivial]
  case fault =>
    intro f stopped
    obtain h | ⟨_, ρ, step, stopped⟩ := run_bind_eq_error.1 stopped
    · exact tame_advance.fault h
    · rw [left_of_next next, ← (advance_left step).1]
      exact later.fault stopped

theorem reads_next_bind {g : Option Piece → Parse β} (ended : Reads [] keeps (g none))
    (seen : ∀ p, Reads [] keeps (g (some p)) ∨
      ∃ h : Parse β, g (some p) = (advance >>= fun _ => h) ∧ Reads p.text keeps h) :
    Reads [] keeps (next? >>= g) := by
  apply Reads.mk
  intro σ
  suffices ReadsFrom σ [] keeps (g σ.next) from this.congr rfl
  cases next : σ.next with
  | none => exact ended.each σ
  | some p =>
    obtain h | ⟨h, same, later⟩ := seen p
    · exact h.each σ
    · rw [same]
      exact reads_take later next

theorem repeatLast_ne_nil {place : Nat} {counts : Nat × Option Nat} {es es' : List Element}
    {σ σ' : Progress} (done : (repeatLast place counts es).run σ = .ok (es', σ')) : es' ≠ [] := by
  unfold repeatLast at done
  split at done
  · cases done
  · cases done
  · cases done
  · obtain ⟨greed, _, _, ⟨⟩⟩ := run_bind_eq_ok.1 done
    simp

/-- The readers of the language of patterns that may call each other, with so much fuel. -/
structure ReadsWith (n : Nat) : Prop where
  branches (verbose top first : Bool) :
    Reads [] (fun _ => (top && first) = false) (readBranches verbose top first n)
  sequence (verbose first : Bool) (es : List Element) :
    Reads [] (fun _ => first = false ∨ es ≠ []) (readSequence verbose first es n)
  body (verbose : Bool) (start : Nat) : Tame (readBody verbose start n)
  numbered (verbose : Bool) (start : Nat) (name : Option (List Char)) :
    Tame (readNumbered verbose start name n)
  group (verbose : Bool) (start : Nat) : Reads [] (· ≠ .flags) (readGroup verbose start n)
  look (verbose : Bool) (start : Nat) (ahead negated : Bool) :
    Tame (readLook verbose start ahead negated n)

namespace ReadsWith

variable {n : Nat} (below : ReadsWith n)

include below

theorem branches_succ (verbose top first : Bool) :
    Reads [] (fun _ => (top && first) = false) (readBranches verbose top first (n + 1)) := by
  rw [readBranches]
  apply (below.sequence verbose (top && first) []).bind
  · intro ns
    apply (tame_accept _).bind
    intro more
    simp only [reads_ite, reads_pure, implies_true, true_and]
    intro _
    apply tame_get.bind
    intro p
    apply Reads.bind (below.branches _ top false)
    · exact fun _ => reads_pure _
    · simp
  · intro _ _ _ _ _ h
    exact .inl h

theorem sequence_succ (verbose first : Bool) (es : List Element) :
    Reads [] (fun _ => first = false ∨ es ≠ []) (readSequence verbose first es (n + 1)) := by
  rw [readSequence]
  apply reads_next_bind
  · exact reads_pure _
  intro this
  dsimp only
  split
  · exact .inl (reads_pure _)
  refine .inr ⟨_, rfl, ?_⟩
  apply reads_here_bind
  intro place
  have more (e : Element) :
      Reads [] (fun _ => first = false ∨ es ≠ []) (readSequence verbose first (e :: es) n) :=
    (below.sequence verbose first (e :: es)).weaken (by simp)
  split
  · exact (below.sequence verbose first es).after
  split
  · apply Reads.bind (tame_skipComment _).after _ fun _ _ => trivial
    intro _
    exact below.sequence verbose first es
  split
  · apply Reads.bind (tame_escape _).after _ fun _ _ => trivial
    exact fun _ => more _
  · apply Reads.bind tame_readSet.after _ fun _ _ => trivial
    exact fun _ => more _
  · exact (more _).after
  · exact (more _).after
  · exact (more _).after
  · apply Reads.bind (below.group verbose _).after
    · intro r
      cases r with
      | element e => exact more e
      | nothing => exact below.sequence verbose first es
      | flags =>
        refine reads_ite.2 ⟨fun _ => reads_failAt .., fun _ => ?_⟩
        apply tame_get.bind
        intro p
        exact below.sequence _ first es
    · intro r _ _ _ done late
      cases r with
      | element e => simp
      | nothing => simp
      | flags =>
        have late : (!first || !es.isEmpty) = true := by simpa using late
        simp only [late, if_true] at done
        cases done
  · apply Reads.bind (reads_repetition? _) _ fun _ _ => trivial
    intro counts
    cases counts with
    | none => exact more _
    | some counts =>
      apply Reads.bind_outcome (tame_repeatLast ..) _ fun _ _ => trivial
      intro es' ⟨_, _, done⟩
      have some : es' ≠ [] := repeatLast_ne_nil done
      exact (below.sequence verbose first es').weaken fun _ _ => .inr some

theorem body_succ (verbose : Bool) (start : Nat) : Tame (readBody verbose start (n + 1)) := by
  rw [readBody]
  apply Reads.bind (below.branches verbose false false)
  · intro branches
    apply (tame_closeParen start).bind
    exact fun _ => reads_pure _
  · exact fun _ _ => rfl

theorem numbered_succ (verbose : Bool) (start : Nat) (name : Option (List Char)) :
    Tame (readNumbered verbose start name (n + 1)) := by
  rw [readNumbered]
  apply (tame_openGroup name).bind
  intro index
  apply (below.body verbose start).bind
  intro body
  apply (tame_closeGroup index _).bind
  exact fun _ => reads_pure _

theorem group_succ (verbose : Bool) (start : Nat) :
    Reads [] (· ≠ .flags) (readGroup verbose start (n + 1)) := by
  rw [readGroup]
  have numbered name : Reads [] (· ≠ .flags) (readNumbered verbose start name n) :=
    (below.numbered verbose start name).weaken fun _ _ => trivial
  have look ahead negated : Reads [] (· ≠ .flags) (readLook verbose start ahead negated n) :=
    (below.look verbose start ahead negated).weaken fun _ _ => trivial
  have body (verbose : Bool) (g : List Node → GroupResult) :
      Reads [] (· ≠ .flags) (readBody verbose start n >>= fun ns => pure (g ns)) :=
    (below.body verbose start).bind fun _ => reads_pure _
  apply (tame_accept _).bind
  intro extended
  refine reads_ite.2 ⟨fun _ => numbered none, fun _ => ?_⟩
  apply tame_take?.bind
  intro p
  cases p with
  | none => exact reads_failBefore ..
  | some p =>
    dsimp only
    split
    · apply (tame_accept _).bind
      intro angle
      refine reads_ite.2 ⟨fun _ => ?_, fun _ => ?_⟩
      · apply (tame_takeName ..).bind
        intro name
        apply (tame_checkName name).bind
        intro _
        exact numbered (some name)
      · apply (tame_accept _).bind
        intro again
        refine reads_ite.2 ⟨fun _ => ?_, fun _ => ?_⟩
        · exact tame_namedReference.bind fun _ => reads_pure _
        · apply tame_take?.bind
          intro q
          cases q with
          | none => exact reads_failBefore ..
          | some q => exact reads_failBefore ..
    · exact body _ _
    · apply (tame_skipComment _).bind
      intro there
      exact reads_ite.2 ⟨fun _ => reads_pure _, fun _ => reads_failAt ..⟩
    · exact look true false
    · exact look true true
    · apply tame_take?.bind
      intro q
      cases q with
      | none => exact reads_failBefore ..
      | some q => exact reads_ite.2 ⟨fun _ => reads_failBefore .., fun _ => look false _⟩
    · apply tame_readCondition.bind
      intro asked
      have branch : Tame (readSequence verbose false [] n) :=
        (below.sequence verbose false []).weaken fun _ _ => .inl rfl
      apply branch.bind
      intro yes
      apply (tame_readOtherwise branch).bind
      intro no
      apply (tame_closeParen start).bind
      exact fun _ => reads_pure _
    · exact body _ _
    · refine reads_ite.2 ⟨fun _ => reads_failBefore .., fun _ => ?_⟩
      apply (reads_readFlags _).bind
      · intro r
        cases r with
        | none => exact reads_pure _
        | some r => exact body _ _
      · intro r _ _ _ done late
        cases r with
        | none =>
          cases done
          exact absurd rfl late
        | some r => rfl

theorem look_succ (verbose : Bool) (start : Nat) (ahead negated : Bool) :
    Tame (readLook verbose start ahead negated (n + 1)) := by
  rw [readLook]
  apply (tame_beginLook ahead).bind
  intro outermost
  apply Reads.bind (below.branches verbose false false)
  · intro branches
    apply (tame_endLook outermost).bind
    intro _
    apply (tame_closeParen start).bind
    exact fun _ => reads_pure _
  · exact fun _ _ => rfl

end ReadsWith

theorem readsWith (n : Nat) : ReadsWith n := by
  induction n with
  | zero =>
    constructor
    · exact fun _ _ _ => reads_failBefore ..
    · exact fun _ _ _ => reads_failBefore ..
    · exact fun _ _ => reads_failBefore ..
    · exact fun _ _ _ => reads_failBefore ..
    · exact fun _ _ => reads_failBefore ..
    · exact fun _ _ _ _ => reads_failBefore ..
  | succ n below =>
    exact ⟨below.branches_succ, below.sequence_succ, below.body_succ, below.numbered_succ,
      below.group_succ, below.look_succ⟩

/-! The whole pattern -/

theorem accept_eq_false {c : Char} {b : Bool} {σ σ' : Progress} (other : σ.next ≠ some (.plain c))
    (done : (accept c).run σ = .ok (b, σ')) : b = false ∧ σ' = σ := by
  obtain ⟨-, next, -⟩ | h := accept_cases done
  · exact absurd next other
  · exact h.2.imp_left fun _ => h.1

theorem readNumbered_element {verbose : Bool} {start n : Nat} {name : Option (List Char)}
    {r : GroupResult} {σ σ' : Progress}
    (done : (readNumbered verbose start name n).run σ = .ok (r, σ')) : ∃ e, r = .element e := by
  cases n with
  | zero => cases done
  | succ n =>
    rw [readNumbered] at done
    obtain ⟨index, ρ₁, -, done⟩ := run_bind_eq_ok.1 done
    obtain ⟨body, ρ₂, -, done⟩ := run_bind_eq_ok.1 done
    obtain ⟨_, ρ₃, -, ⟨⟩⟩ := run_bind_eq_ok.1 done
    exact ⟨_, rfl⟩

/-- A group without a question mark is an element. -/
theorem readGroup_element {verbose : Bool} {start n : Nat} {r : GroupResult} {σ σ' : Progress}
    (other : σ.next ≠ some (.plain '?')) (done : (readGroup verbose start n).run σ = .ok (r, σ')) :
    ∃ e, r = .element e := by
  cases n with
  | zero => cases done
  | succ n =>
    rw [readGroup] at done
    obtain ⟨b, ρ, there, later⟩ := run_bind_eq_ok.1 done
    obtain ⟨rfl, rfl⟩ := accept_eq_false other there
    exact readNumbered_element later

/-- Only a group at the front that gives no element can change the switches of the whole. -/
theorem readSequence_front {n : Nat} {ns : List Node} {σ σ' : Progress}
    (done : (readSequence false true [] (n + 1)).run σ = .ok (ns, σ'))
    (changed : σ'.flags ≠ σ.flags) :
    σ.next = some (.plain '(') ∧ ∃ ρ r ρ', advance.run σ = .ok ((), ρ) ∧
      (readGroup false (ρ.place - 1) n).run ρ = .ok (r, ρ') ∧
      (r = .flags ∨ r = .nothing ∧ (readSequence false true [] n).run ρ' = .ok (ns, σ')) := by
  have more {e : Element} {ns : List Node} {ρ : Progress}
      (done : (readSequence false true [e] n).run ρ = .ok (ns, σ')) : σ'.flags = ρ.flags :=
    ((readsWith n).sequence false true [e]).same done (by simp)
  rw [readSequence] at done
  obtain ⟨p, _, ⟨⟩, done⟩ := run_bind_eq_ok.1 done
  split at done
  · rename_i this next
    split at done
    · cases done
      exact absurd rfl changed
    obtain ⟨_, ρ, step, done⟩ := run_bind_eq_ok.1 done
    obtain ⟨_, _, ⟨⟩, done⟩ := run_bind_eq_ok.1 done
    rw [← tame_advance.same step trivial] at changed
    simp only [Bool.false_and, Bool.false_eq_true, if_false] at done
    split at done
    · obtain ⟨m, ρ', first, done⟩ := run_bind_eq_ok.1 done
      rw [more done, (tame_escape _).same first trivial] at changed
      exact absurd rfl changed
    · obtain ⟨m, ρ', first, done⟩ := run_bind_eq_ok.1 done
      rw [more done, tame_readSet.same first trivial] at changed
      exact absurd rfl changed
    · exact absurd (more done) changed
    · exact absurd (more done) changed
    · exact absurd (more done) changed
    · obtain ⟨r, ρ', first, done⟩ := run_bind_eq_ok.1 done
      refine ⟨next, ρ, r, ρ', step, first, ?_⟩
      cases r with
      | element e =>
        rw [more done, ((readsWith n).group false _).same first (by simp)] at changed
        exact absurd rfl changed
      | nothing => exact .inr ⟨rfl, done⟩
      | flags => exact .inl rfl
    · obtain ⟨counts, ρ', first, done⟩ := run_bind_eq_ok.1 done
      rw [← (reads_repetition? _).same first trivial] at changed
      cases counts with
      | none => exact absurd (more done) changed
      | some counts =>
        obtain ⟨es, _, ⟨⟩, -⟩ := run_bind_eq_ok.1 done
  · cases done
    exact absurd rfl changed

/-- Switches for the whole pattern need a question mark behind the first parenthesis. -/
theorem readSequence_flags {n : Nat} {ns : List Node} {σ σ' : Progress}
    (plain : ¬ ['(', '?'] <+: σ.left)
    (done : (readSequence false true [] n).run σ = .ok (ns, σ')) : σ'.flags = σ.flags := by
  cases n with
  | zero => cases done
  | succ n =>
    apply Decidable.byContradiction
    intro changed
    obtain ⟨next, ρ, r, ρ', step, group, gives⟩ := readSequence_front done changed
    have other : ρ.next ≠ some (.plain '?') := by
      intro mark
      apply plain
      rw [left_of_next next, ← (advance_left step).1, left_of_next mark]
      exact List.prefix_append ['(', '?'] _
    obtain ⟨e, rfl⟩ := readGroup_element other group
    obtain ⟨⟨⟩⟩ | ⟨⟨⟩, -⟩ := gives

theorem readBranches_flags {n : Nat} {branches : List (List Node)} {σ σ' : Progress}
    (plain : ¬ ['(', '?'] <+: σ.left)
    (done : (readBranches false true true n).run σ = .ok (branches, σ')) :
    σ'.flags = σ.flags := by
  cases n with
  | zero => cases done
  | succ n =>
    rw [readBranches] at done
    obtain ⟨ns, ρ₁, first, done⟩ := run_bind_eq_ok.1 done
    rw [← readSequence_flags plain first]
    obtain ⟨more, ρ₂, bar, done⟩ := run_bind_eq_ok.1 done
    rw [← (tame_accept _).same bar trivial]
    split at done
    · cases done
      rfl
    · obtain ⟨_, _, ⟨⟩, done⟩ := run_bind_eq_ok.1 done
      obtain ⟨others, _, read, ⟨⟩⟩ := run_bind_eq_ok.1 done
      exact ((readsWith n).branches _ true false).same read rfl

/-- What reading a pattern may end with that is not a complaint about its form: a count in it has a
fault, or switches at its front contradict each other. -/
def Upsets (f : Fault) (text : List Char) : Prop :=
  Overcounts f text ∨ f = .lettersContradict ∧ ['(', '?'] <+: text

theorem readPattern_fault {text : List Char} {f : Fault}
    (stopped : readPattern.run ⟨text.length, none, text, Flags.none, [], [], none, []⟩ =
      .error (.fault f)) : Upsets f text := by
  obtain h | ⟨_, ρ, step, stopped⟩ := run_bind_eq_error.1 stopped
  · exact .inl (tame_advance.fault h)
  obtain ⟨left, flags⟩ := advance_left step
  dsimp only at left flags
  obtain ⟨⟨⟩⟩ | ⟨_, _, ⟨⟩, stopped⟩ := run_bind_eq_error.1 stopped
  obtain h | ⟨branches, ρ', read, stopped⟩ := run_bind_eq_error.1 stopped
  · rw [← left]
    exact .inl (((readsWith _).branches false true true).fault h)
  obtain ⟨⟨⟩⟩ | ⟨_, _, ⟨⟩, stopped⟩ := run_bind_eq_error.1 stopped
  split at stopped
  · rename_i letters
    cases stopped
    refine .inr ⟨rfl, ?_⟩
    by_cases front : ['(', '?'] <+: text
    · exact front
    · rw [← left] at front
      rw [readBranches_flags front read, flags] at letters
      cases letters
  · split at stopped
    · cases stopped
    · split at stopped <;> cases stopped

theorem compile_fault {text : List Char} {f : Fault}
    (stopped : compile text = .error (.fault f)) : Upsets f text := by
  obtain h | ⟨p, -, stopped⟩ := bind_eq_error.1 stopped
  · obtain h | ⟨r, -, ⟨⟩⟩ := bind_eq_error.1 h
    exact readPattern_fault h
  · split at stopped <;> cases stopped

end Storyworld.Pattern
