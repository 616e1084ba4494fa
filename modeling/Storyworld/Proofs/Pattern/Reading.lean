import Storyworld.Pattern.Parser
import Storyworld.Proofs.Results

/-!
Reading a pattern from one state of its text. Each reader leaves an end of the text, and all of them
but those for switches leave the switches alone. A fault can only come from a count in braces.
-/

namespace Storyworld.Pattern

variable {α β : Type} {σ σ' : Progress}

theorem run_bind_eq_ok {x : Parse α} {f : α → Parse β} {b : β} :
    (x >>= f).run σ = .ok (b, σ') ↔
      ∃ a ρ, x.run σ = .ok (a, ρ) ∧ (f a).run ρ = .ok (b, σ') := by
  rw [StateT.run_bind, bind_eq_ok, Prod.exists]

theorem run_bind_eq_error {x : Parse α} {f : α → Parse β} {e : Failure} :
    (x >>= f).run σ = .error e ↔
      x.run σ = .error e ∨ ∃ a ρ, x.run σ = .ok (a, ρ) ∧ (f a).run ρ = .error e := by
  rw [StateT.run_bind, bind_eq_error, Prod.exists]

theorem run_bind_of_ok {x : Parse α} {f : α → Parse β} {a : α} (done : x.run σ = .ok (a, σ')) :
    (x >>= f).run σ = (f a).run σ' := by
  rw [StateT.run_bind, done]
  rfl

theorem run_bind_of_error {x : Parse α} {f : α → Parse β} {e : Failure}
    (failed : x.run σ = .error e) : (x >>= f).run σ = .error e :=
  run_bind_eq_error.2 (.inl failed)

/-- The text that is still to be read. -/
def Progress.left (p : Progress) : List Char :=
  (p.next.map Piece.text).getD [] ++ p.rest

/-- Counts in braces as they are written. -/
def braces (lo : List Char) : Option (List Char) → List Char
  | none => '\x7b' :: lo ++ ['\x7d']
  | some hi => '\x7b' :: lo ++ ',' :: hi ++ ['\x7d']

/-- A text with braces somewhere that hold a count with a fault. -/
def Overcounts (f : Fault) (text : List Char) : Prop :=
  ∃ lo hi ds, (ds = lo ∨ hi = some ds) ∧ (∀ c ∈ lo ++ hi.getD [], c ∈ digitChars) ∧
    countFault? ds = some f ∧ braces lo hi <:+: text

theorem Overcounts.mono {f : Fault} {s t : List Char} (h : Overcounts f s) (inside : s <:+: t) :
    Overcounts f t := by
  obtain ⟨lo, hi, ds, one, digits, fault, place⟩ := h
  exact ⟨lo, hi, ds, one, digits, fault, place.trans inside⟩

/-- What a part of the reading does from one state: the text gets shorter at its front, switches are
only added, and none is where `keeps` says so. A fault comes from a count in the text, or in it and
what was taken from it just before. -/
structure ReadsFrom (σ : Progress) (taken : List Char) (keeps : α → Prop) (x : Parse α) : Prop where
  left {σ' : Progress} {a : α} (done : x.run σ = .ok (a, σ')) : σ'.left <:+ σ.left
  grows {σ' : Progress} {a : α} (done : x.run σ = .ok (a, σ')) (none : σ'.flags = .none) :
    σ.flags = .none
  same {σ' : Progress} {a : α} (done : x.run σ = .ok (a, σ')) (kept : keeps a) :
    σ'.flags = σ.flags
  fault {f : Fault} (stopped : x.run σ = .error (.fault f)) : Overcounts f (taken ++ σ.left)

structure Reads (taken : List Char) (keeps : α → Prop) (x : Parse α) : Prop where
  each : ∀ σ, ReadsFrom σ taken keeps x

/-- Reading that leaves the switches alone. -/
abbrev Tame (x : Parse α) : Prop :=
  Reads [] (fun _ => True) x

variable {x : Parse α} {y : Parse β} {f : α → Parse β} {keeps : β → Prop} {taken : List Char}

section

variable {σ σ' : Progress} {b : β} (h : Reads taken keeps y)

include h

theorem Reads.left (done : y.run σ = .ok (b, σ')) : σ'.left <:+ σ.left :=
  (h.each σ).left done

theorem Reads.grows (done : y.run σ = .ok (b, σ')) (none : σ'.flags = .none) : σ.flags = .none :=
  (h.each σ).grows done none

theorem Reads.same (done : y.run σ = .ok (b, σ')) (kept : keeps b) : σ'.flags = σ.flags :=
  (h.each σ).same done kept

theorem Reads.fault {f : Fault} (stopped : y.run σ = .error (.fault f)) :
    Overcounts f (taken ++ σ.left) :=
  (h.each σ).fault stopped

end

theorem Reads.after (h : Reads [] keeps y) : Reads taken keeps y where
  each σ := { h.each σ with
    fault stopped := ((h.each σ).fault stopped).mono (List.suffix_append ..).isInfix }

theorem Reads.weaken {kept : β → Prop} (h : Reads taken kept y) (less : ∀ b, keeps b → kept b) :
    Reads taken keeps y where
  each σ := { h.each σ with same := fun done kept => h.same done (less _ kept) }

theorem Reads.bind_outcome {kept : α → Prop} (first : Reads taken kept x)
    (later : ∀ a, (∃ ρ ρ', x.run ρ = .ok (a, ρ')) → Reads [] keeps (f a))
    (back : ∀ {a b ρ ρ'}, (f a).run ρ = .ok (b, ρ') → keeps b → kept a) :
    Reads taken keeps (x >>= f) := by
  apply Reads.mk
  intro σ
  constructor
  case left =>
    intro σ' b done
    obtain ⟨a, ρ, here, there⟩ := run_bind_eq_ok.1 done
    exact ((later a ⟨_, _, here⟩).left there).trans (first.left here)
  case grows =>
    intro σ' b done none
    obtain ⟨a, ρ, here, there⟩ := run_bind_eq_ok.1 done
    apply first.grows here
    exact (later a ⟨_, _, here⟩).grows there none
  case same =>
    intro σ' b done hb
    obtain ⟨a, ρ, here, there⟩ := run_bind_eq_ok.1 done
    rw [(later a ⟨_, _, here⟩).same there hb]
    exact first.same here (back there hb)
  case fault =>
    intro f' stopped
    obtain h | ⟨a, ρ, here, there⟩ := run_bind_eq_error.1 stopped
    · exact first.fault h
    · apply ((later a ⟨_, _, here⟩).fault there).mono
      exact ((first.left here).trans (List.suffix_append taken _)).isInfix

theorem Reads.bind {kept : α → Prop} (first : Reads taken kept x)
    (later : ∀ a, Reads [] keeps (f a))
    (back : ∀ {a b ρ ρ'}, (f a).run ρ = .ok (b, ρ') → keeps b → kept a) :
    Reads taken keeps (x >>= f) :=
  first.bind_outcome (fun a _ => later a) back

theorem Tame.bind (first : Tame x) (later : ∀ a, Reads [] keeps (f a)) :
    Reads [] keeps (x >>= f) :=
  Reads.bind first later fun _ _ => trivial

/-- What gives a value at once, and does nothing to the text and to the switches. -/
theorem reads_still {g : Progress → Progress} {h : Progress → α} {keeps : α → Prop}
    (run : ∀ σ, x.run σ = .ok (h σ, g σ))
    (same : ∀ σ, (g σ).next = σ.next ∧ (g σ).rest = σ.rest ∧ (g σ).flags = σ.flags) :
    Reads taken keeps x := by
  apply Reads.mk
  intro σ
  have given {σ' : Progress} {a : α} (done : x.run σ = .ok (a, σ')) : σ' = g σ := by
    rw [run] at done
    cases done
    rfl
  constructor
  case left =>
    intro σ' a done
    simp [given done, Progress.left, same σ]
  case grows =>
    intro σ' a done none
    rwa [given done, (same σ).2.2] at none
  case same =>
    intro σ' a done _
    rw [given done, (same σ).2.2]
  case fault =>
    intro f stopped
    rw [run] at stopped
    cases stopped

theorem reads_malformed {m : Progress → Malformed} {keeps : α → Prop}
    (run : ∀ σ, x.run σ = .error (.malformed (m σ))) : Reads taken keeps x where
  each σ := by constructor <;> simp [run]

@[simp] theorem reads_pure {keeps : α → Prop} (a : α) : Reads taken keeps (pure a) :=
  reads_still (fun _ => rfl) (by simp)

@[simp] theorem tame_get : Tame (get : Parse Progress) :=
  reads_still (fun _ => rfl) (by simp)

theorem tame_modify {g : Progress → Progress}
    (same : ∀ p, (g p).next = p.next ∧ (g p).rest = p.rest ∧ (g p).flags = p.flags) :
    Tame (modify g : Parse Unit) :=
  reads_still (fun _ => rfl) same

@[simp] theorem reads_failAt (c : Cause) (n : Nat) : Reads taken keeps (failAt c n) :=
  reads_malformed fun _ => rfl

@[simp] theorem reads_failBefore (c : Cause) (n : Nat) : Reads taken keeps (failBefore c n) :=
  reads_malformed fun _ => rfl

@[simp] theorem reads_failBefore_bind (c : Cause) (n : Nat) (f : α → Parse β) :
    Reads taken keeps (failBefore c n >>= f) :=
  reads_malformed fun _ => rfl

theorem advance_left {σ σ' : Progress} (done : advance.run σ = .ok ((), σ')) :
    σ'.left = σ.rest ∧ σ'.flags = σ.flags := by
  obtain ⟨_, _, ⟨⟩, done⟩ := run_bind_eq_ok.1 done
  split at done <;> cases done <;> simp [*, Progress.left, Piece.text]

theorem left_of_next {σ : Progress} {p : Piece} (next : σ.next = some p) :
    σ.left = p.text ++ σ.rest := by
  simp [Progress.left, next]

@[simp] theorem tame_advance : Tame advance := by
  apply Reads.mk
  intro σ
  constructor
  case left =>
    intro σ' _ done
    rw [(advance_left done).1]
    exact List.suffix_append ..
  case grows => exact fun done none => (advance_left done).2.symm.trans none
  case same => exact fun done _ => (advance_left done).2
  case fault =>
    intro f stopped
    obtain ⟨⟨⟩⟩ | ⟨_, _, ⟨⟩, stopped⟩ := run_bind_eq_error.1 stopped
    split at stopped <;> cases stopped

@[simp] theorem reads_map {g : α → β} (first : Tame x) : Reads [] keeps (g <$> x) := by
  rw [map_eq_pure_bind]
  exact first.bind fun a => reads_pure (g a)

@[simp] theorem reads_ite {c : Prop} [Decidable c] {y z : Parse β} :
    Reads taken keeps (if c then y else z) ↔
      (c → Reads taken keeps y) ∧ (¬ c → Reads taken keeps z) := by
  by_cases h : c
  · simp [h]
  · simp [h]

@[simp] theorem tame_here : Tame here := by
  simp [here]

@[simp] theorem tame_next? : Tame next? := by
  simp [next?]

@[simp] theorem tame_take? : Tame take? := by
  apply tame_next?.bind
  intro p
  simp

@[simp] theorem tame_accept (c : Char) : Tame (accept c) := by
  apply tame_next?.bind
  intro p
  simp

theorem accept_cases {c : Char} {b : Bool} {σ σ' : Progress}
    (done : (accept c).run σ = .ok (b, σ')) :
    b = true ∧ σ.next = some (.plain c) ∧ advance.run σ = .ok ((), σ') ∨
      b = false ∧ σ.next ≠ some (.plain c) ∧ σ' = σ := by
  obtain ⟨p, _, ⟨⟩, done⟩ := run_bind_eq_ok.1 done
  split at done
  · obtain ⟨_, _, step, ⟨⟩⟩ := run_bind_eq_ok.1 done
    exact .inl ⟨rfl, ‹_›, step⟩
  · cases done
    exact .inr ⟨rfl, ‹_›, rfl⟩

@[simp] theorem tame_takeSome (chars : List Char) (n : Nat) : Tame (takeSome chars n) := by
  induction n with
  | zero => simp [takeSome]
  | succ n ih =>
    apply tame_next?.bind
    intro p
    cases p with
    | none => simp
    | some p =>
      refine reads_ite.2 ⟨fun _ => ?_, fun _ => ?_⟩
      · apply tame_advance.bind
        intro _
        simp [ih]
      · simp

@[simp] theorem tame_takeAll (chars : List Char) : Tame (takeAll chars) := by
  apply tame_get.bind
  intro p
  simp

@[simp] theorem tame_takeName (stop : Char) (what : String) : Tame (takeName stop what) := by
  have go (name : List Char) (n : Nat) : Tame (takeName.go stop what name n) := by
    induction n generalizing name with
    | zero => simp [takeName.go]
    | succ n ih =>
      apply tame_take?.bind
      intro p
      cases p with
      | none => simp
      | some p => simp [ih]
  apply tame_get.bind
  intro p
  exact go [] _

@[simp] theorem tame_groupCount : Tame groupCount := by
  simp [groupCount]

@[simp] theorem tame_isClosed (n : Nat) : Tame (isClosed n) := by
  simp [isClosed]

@[simp] theorem tame_checkBehind (n : Nat) : Tame (checkBehind n) := by
  apply tame_get.bind
  intro p
  cases p.behind with
  | none => simp
  | some count =>
    apply (tame_isClosed n).bind
    intro closed
    simp

@[simp] theorem tame_hexEscape (text : List Char) (count : Nat) : Tame (hexEscape text count) := by
  apply (tame_takeSome ..).bind
  intro ds
  simp

@[simp] theorem tame_namedEscape : Tame namedEscape := by
  apply (tame_accept _).bind
  intro there
  cases there with
  | false => simp
  | true => exact (tame_takeName ..).bind fun _ => reads_failBefore ..

@[simp] theorem tame_octalEscape (text : List Char) : Tame (octalEscape text) := by
  apply (tame_takeSome ..).bind
  intro ds
  simp

@[simp] theorem tame_letterEscape (c : Char) : Tame (letterEscape c) := by
  simp [letterEscape]

@[simp] theorem tame_classEscape (c : Char) : Tame (classEscape c) := by
  unfold classEscape
  split
  · simp
  · split
    · simp
    · simp

@[simp] theorem tame_reference (text : List Char) : Tame (reference text) := by
  apply tame_groupCount.bind
  intro count
  refine reads_ite.2 ⟨fun _ => ?_, fun _ => ?_⟩
  · apply (tame_isClosed _).bind
    intro closed
    simp
  · simp

@[simp] theorem tame_digitEscape (c : Char) : Tame (digitEscape c) := by
  apply tame_next?.bind
  intro p
  split
  · refine reads_ite.2 ⟨fun _ => ?_, fun _ => ?_⟩
    · apply tame_advance.bind
      intro _
      apply tame_next?.bind
      intro q
      split
      · refine reads_ite.2 ⟨fun _ => ?_, fun _ => ?_⟩
        · apply tame_advance.bind
          intro _
          simp
        · simp
      · simp
    · simp
  · simp

@[simp] theorem tame_escape (c : Char) : Tame (escape c) := by
  unfold escape
  split
  · simp
  · simp
  · simp
  · simp

/-! Switches -/

namespace Flags

@[simp] theorem union_eq_none {f g : Flags} : f.union g = .none ↔ f = .none ∧ g = .none := by
  cases f
  cases g
  simp [union, merge, none]
  grind

end Flags

theorem flagOf?_ne_none {c : Char} {f : Flags} (h : flagOf? c = some f) (other : c ≠ 'L') :
    f ≠ .none := by
  unfold flagOf? at h
  split at h <;> cases h <;> first | exact absurd rfl other | decide

@[simp] theorem reads_failFlag (what : String) (p : Piece) :
    Reads taken keeps (failFlag what p) := by
  simp [failFlag]

@[simp] theorem tame_flagsOn (on : Flags) (c : Char) (f : Flags) (n : Nat) :
    Tame (flagsOn on c f n) := by
  induction n generalizing on c f with
  | zero => simp [flagsOn]
  | succ n ih =>
    unfold flagsOn
    simp only [reads_ite, reads_failBefore_bind, implies_true, true_and]
    intro _ _
    apply tame_take?.bind
    intro p
    cases p with
    | none => simp
    | some p =>
      simp only [reads_ite, reads_pure, implies_true, true_and]
      intro _
      split
      · exact ih ..
      · simp

@[simp] theorem tame_flagsOff (off : Flags) (c : Char) (f : Flags) (n : Nat) :
    Tame (flagsOff off c f n) := by
  induction n generalizing off c f with
  | zero => simp [flagsOff]
  | succ n ih =>
    unfold flagsOff
    simp only [reads_ite, reads_failBefore_bind, implies_true, true_and]
    intro _
    apply tame_take?.bind
    intro p
    cases p with
    | none => simp
    | some p =>
      simp only [reads_ite, reads_pure, implies_true, true_and]
      intro _
      split
      · exact ih ..
      · simp


@[simp] theorem tame_readOn (p : Piece) : Tame (readOn p) := by
  unfold readOn
  split
  · apply tame_get.bind
    intro q
    simp
  · simp

@[simp] theorem tame_readOff (stop : Piece) : Tame (readOff stop) := by
  refine reads_ite.2 ⟨fun _ => ?_, fun _ => reads_pure _⟩
  apply tame_take?.bind
  intro p
  cases p with
  | none => simp
  | some p =>
    dsimp only
    split
    · apply tame_get.bind
      intro q
      simp
    · simp

/-- Only switches for the whole pattern are kept in the state. -/
theorem reads_readFlags (p : Piece) : Reads [] (fun r => r.isSome) (readFlags p) := by
  apply (tame_readOn _).bind
  intro r
  refine reads_ite.2 ⟨fun _ => ?_, fun _ => ?_⟩
  · have turned : Reads [] (fun _ => False)
        (modify fun p => { p with flags := p.flags.union r.1 } : Parse Unit) := by
      apply Reads.mk
      intro σ
      constructor
      case left =>
        intro σ' _ done
        cases done
        exact List.suffix_rfl
      case grows =>
        intro σ' _ done none
        cases done
        exact (Flags.union_eq_none.1 none).1
      case same => exact fun _ => False.elim
      case fault => exact nofun
    apply turned.bind
    · exact fun _ => reads_pure _
    · intro _ b _ _ done there
      cases done
      simp at there
  · simp only [reads_ite, reads_failBefore_bind, implies_true, true_and]
    intro _
    apply (tame_readOff _).bind
    intro off
    simp

@[simp] theorem tame_memberOf (p : Piece) : Tame (memberOf p) := by
  cases p with
  | plain c => exact reads_pure _
  | escaped c => exact tame_classEscape c

@[simp] theorem tame_readMembers (start : Nat) (parts : List ClassPart) (n : Nat) :
    Tame (readMembers start parts n) := by
  induction n generalizing parts with
  | zero => simp [readMembers]
  | succ n ih =>
    apply tame_take?.bind
    intro this
    cases this with
    | none => simp
    | some this =>
      simp only [reads_ite, reads_pure, implies_true, true_and]
      intro _
      apply (tame_memberOf this).bind
      intro first
      apply (tame_accept _).bind
      intro dash
      simp only [reads_ite, ih, implies_true, true_and]
      intro _
      apply tame_take?.bind
      intro that
      cases that with
      | none => simp
      | some that =>
        simp only [reads_ite, reads_pure, implies_true, true_and]
        intro _
        apply (tame_memberOf that).bind
        intro last
        split
        · simp [ih]
        · simp

@[simp] theorem tame_readSet : Tame readSet := by
  apply tame_here.bind
  intro place
  apply (tame_accept _).bind
  intro negated
  apply tame_get.bind
  intro p
  apply (tame_readMembers ..).bind
  intro parts
  split
  · simp
  · simp

@[simp] theorem tame_readGreed : Tame readGreed := by
  apply (tame_accept _).bind
  intro once
  refine reads_ite.2 ⟨fun _ => reads_pure _, fun _ => ?_⟩
  apply (tame_accept _).bind
  intro again
  simp

@[simp] theorem tame_repeatLast (place : Nat) (counts : Nat × Option Nat) (es : List Element) :
    Tame (repeatLast place counts es) := by
  unfold repeatLast
  split
  · simp
  · simp
  · simp
  · apply tame_readGreed.bind
    intro greed
    simp

@[simp] theorem tame_checkName (name : List Char) : Tame (checkName name) := by
  simp [checkName]

@[simp] theorem tame_groupNamed (name : List Char) : Tame (groupNamed name) := by
  apply tame_get.bind
  intro p
  split
  · simp
  · simp

@[simp] theorem tame_groupNumbered (name : List Char) : Tame (groupNumbered name) := by
  unfold groupNumbered
  split
  · simp only [reads_ite, reads_failBefore_bind, implies_true, true_and]
    intro _ _
    apply tame_here.bind
    intro place
    apply Tame.bind
    · apply tame_modify
      intro p
      split
      · simp
      · simp
    · simp
  · simp

@[simp] theorem tame_readCondition : Tame readCondition := by
  apply (tame_takeName ..).bind
  intro name
  dsimp only
  split
  · apply (tame_groupNamed _).bind
    intro index
    apply (tame_checkBehind _).bind
    simp
  · apply (tame_groupNumbered _).bind
    intro index
    apply (tame_checkBehind _).bind
    simp

@[simp] theorem tame_namedReference : Tame namedReference := by
  apply (tame_takeName ..).bind
  intro name
  apply (tame_checkName _).bind
  intro _
  apply (tame_groupNamed _).bind
  intro index
  apply (tame_isClosed _).bind
  intro closed
  simp

@[simp] theorem tame_beginLook (ahead : Bool) : Tame (beginLook ahead) := by
  apply tame_get.bind
  intro p
  refine reads_ite.2 ⟨fun _ => ?_, fun _ => reads_pure _⟩
  apply Tame.bind
  · exact tame_modify (by simp)
  · simp

@[simp] theorem tame_endLook (outermost : Bool) : Tame (endLook outermost) := by
  apply tame_modify
  intro p
  split
  · simp
  · simp

@[simp] theorem tame_skipTo (stop : Char) (n : Nat) : Tame (skipTo stop n) := by
  induction n with
  | zero => simp [skipTo]
  | succ n ih =>
    apply tame_take?.bind
    intro p
    cases p with
    | none => simp
    | some p => simp [ih]

@[simp] theorem tame_skipComment (stop : Char) : Tame (skipComment stop) := by
  apply tame_get.bind
  intro p
  simp

@[simp] theorem tame_closeParen (start : Nat) : Tame (closeParen start) := by
  apply (tame_accept _).bind
  intro there
  simp

theorem tame_readOtherwise {branch : Parse (List Node)} (h : Tame branch) :
    Tame (readOtherwise branch) := by
  apply (tame_accept _).bind
  intro more
  refine reads_ite.2 ⟨fun _ => ?_, fun _ => reads_pure _⟩
  apply h.bind
  intro no
  apply tame_next?.bind
  intro p
  simp

@[simp] theorem tame_openGroup (name : Option (List Char)) : Tame (openGroup name) := by
  apply tame_groupCount.bind
  intro index
  apply Tame.bind
  · exact tame_modify (by simp)
  · intro _
    split
    · simp
    · apply tame_get.bind
      intro p
      split
      · simp
      · apply Tame.bind
        · exact tame_modify (by simp)
        · simp

@[simp] theorem tame_closeGroup (index : Nat) (body : Node) : Tame (closeGroup index body) :=
  tame_modify (by simp)

end Storyworld.Pattern
