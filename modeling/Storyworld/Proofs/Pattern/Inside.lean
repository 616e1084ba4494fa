import Storyworld.Proofs.Pattern.Reading

/-!
Reading a pattern and reading it inside of one more group. The two readings go along with each other
step by step if each part of them does. Here are the parts that read pieces, names and escapes.
-/

namespace Storyworld.Pattern

/-- What is left of a pattern, and of the pattern with a parenthesis behind it. -/
inductive SameText : Option Piece → List Char → Option Piece → List Char → Prop where
  | more {p : Piece} {rest : List Char} : SameText (some p) rest (some p) (rest ++ [')'])
  | ended : SameText none [] (some (.plain ')')) []

/-- The state in a pattern, and the one at the same place inside of one more group. -/
structure Inside (σ τ : Progress) : Prop where
  text : SameText σ.next σ.rest τ.next τ.rest
  flags : τ.flags = σ.flags
  names : τ.names = σ.names.map fun e => (e.1, e.2 + 1)
  named : ∀ e ∈ σ.names, 0 < e.2
  widths : τ.widths = none :: σ.widths
  behind : τ.behind = σ.behind.map (· + 1)
  asked : τ.asked = []

variable {α α' β β' : Type} {σ τ σ' : Progress}

/-- From two such states, if the first reading gives something that is wanted, then so does the
second one, and they are at the same place again. -/
structure FollowsFrom (σ τ : Progress) (wanted : α → Progress → Prop) (R : α → α' → Prop)
    (x : Parse α) (x' : Parse α') : Prop where
  gives {a : α} {σ' : Progress} (done : x.run σ = .ok (a, σ')) (want : wanted a σ') :
    ∃ a' τ', x'.run τ = .ok (a', τ') ∧ R a a' ∧ Inside σ' τ'

structure Follows (wanted : α → Progress → Prop) (R : α → α' → Prop) (x : Parse α)
    (x' : Parse α') : Prop where
  each {σ τ : Progress} (inside : Inside σ τ) : FollowsFrom σ τ wanted R x x'

/-- Two readings that always give the same. -/
abbrev Agrees (x x' : Parse α) : Prop :=
  Follows (fun _ _ => True) Eq x x'

variable {wanted : α → Progress → Prop} {wanted' : β → Progress → Prop} {R : α → α' → Prop}
  {R' : β → β' → Prop} {x : Parse α} {x' : Parse α'} {f : α → Parse β} {f' : α' → Parse β'}
  {y : Parse β} {y' : Parse β'}

theorem Follows.of (h : ∀ {σ τ a σ'}, Inside σ τ → x.run σ = .ok (a, σ') → wanted a σ' →
    ∃ a' τ', x'.run τ = .ok (a', τ') ∧ R a a' ∧ Inside σ' τ') : Follows wanted R x x' :=
  ⟨fun inside => ⟨h inside⟩⟩

theorem FollowsFrom.bind (first : FollowsFrom σ τ wanted R x x')
    (later : ∀ {a a' ρ ρ'}, x.run σ = .ok (a, ρ) → R a a' → Inside ρ ρ' →
      FollowsFrom ρ ρ' wanted' R' (f a) (f' a'))
    (back : ∀ {a ρ b ρ'}, x.run σ = .ok (a, ρ) → (f a).run ρ = .ok (b, ρ') → wanted' b ρ' →
      wanted a ρ) :
    FollowsFrom σ τ wanted' R' (x >>= f) (x' >>= f') := by
  constructor
  intro b σ' done want
  obtain ⟨a, ρ, here, there⟩ := run_bind_eq_ok.1 done
  obtain ⟨a', ρ', here', same, inside⟩ := first.gives here (back here there want)
  obtain ⟨b', τ', there', result⟩ := (later here same inside).gives there want
  exact ⟨b', τ', run_bind_eq_ok.2 ⟨a', ρ', here', there'⟩, result⟩

theorem Follows.bind (first : Follows wanted R x x')
    (later : ∀ a a', R a a' → Follows wanted' R' (f a) (f' a'))
    (back : ∀ {a ρ b ρ'}, (f a).run ρ = .ok (b, ρ') → wanted' b ρ' → wanted a ρ) :
    Follows wanted' R' (x >>= f) (x' >>= f') :=
  ⟨fun inside => (first.each inside).bind (fun _ same => (later _ _ same).each) fun _ => back⟩

theorem Follows.mono {wanted₂ : α → Progress → Prop} (h : Follows wanted R x x')
    (less : ∀ a σ, wanted₂ a σ → wanted a σ) : Follows wanted₂ R x x' :=
  .of fun inside done want => (h.each inside).gives done (less _ _ want)

theorem FollowsFrom.get_bind {f : Progress → Parse β} {f' : Progress → Parse β'}
    (h : FollowsFrom σ τ wanted' R' (f σ) (f' τ)) :
    FollowsFrom σ τ wanted' R' (get >>= f) (get >>= f') :=
  ⟨fun done want => h.gives done want⟩

/-- What always follows may come first. -/
theorem Follows.andThen (first : Follows (fun _ _ => True) R x x')
    (later : ∀ a a', R a a' → Follows wanted' R' (f a) (f' a')) :
    Follows wanted' R' (x >>= f) (x' >>= f') :=
  first.bind later fun _ _ => trivial

theorem Agrees.andThen {f' : α → Parse β'} {x' : Parse α} (first : Agrees x x')
    (later : ∀ a, Follows wanted' R' (f a) (f' a)) :
    Follows wanted' R' (x >>= f) (x' >>= f') := by
  apply Follows.andThen first
  intro a _ same
  cases same
  exact later a

theorem follows_pure {b : β} {b' : β'} (same : R' b b') :
    Follows wanted' R' (pure b) (pure b') := by
  apply Follows.of
  intro σ τ a σ' inside done _
  cases done
  exact ⟨b', τ, rfl, same, inside⟩

theorem agrees_pure (a : α) : Agrees (pure a) (pure a) :=
  follows_pure rfl

/-- Nothing is asked where the first reading fails. -/
theorem follows_of_fails (fails : ∀ σ, ∃ e, y.run σ = .error e) : Follows wanted' R' y y' := by
  apply Follows.of
  intro σ τ b σ' _ done
  obtain ⟨e, failed⟩ := fails σ
  cases failed.symm.trans done

@[simp] theorem follows_failAt (c : Cause) (n : Nat) :
    Follows wanted' R' (failAt c n : Parse β) y' :=
  follows_of_fails fun _ => ⟨_, rfl⟩

@[simp] theorem follows_failBefore (c : Cause) (n : Nat) :
    Follows wanted' R' (failBefore c n : Parse β) y' :=
  follows_of_fails fun _ => ⟨_, rfl⟩

@[simp] theorem follows_failAt_bind (c : Cause) (n : Nat) (f : α → Parse β) :
    Follows wanted' R' (failAt c n >>= f) y' :=
  follows_of_fails fun _ => ⟨_, rfl⟩

@[simp] theorem follows_failBefore_bind (c : Cause) (n : Nat) (f : α → Parse β) :
    Follows wanted' R' (failBefore c n >>= f) y' :=
  follows_of_fails fun _ => ⟨_, rfl⟩

theorem follows_ite {c c' : Prop} [Decidable c] [Decidable c'] (same : c ↔ c') {z : Parse β}
    {z' : Parse β'} (yes : c → Follows wanted' R' y y') (no : ¬ c → Follows wanted' R' z z') :
    Follows wanted' R' (if c then y else z) (if c' then y' else z') := by
  by_cases h : c
  · rw [if_pos h, if_pos (same.1 h)]
    exact yes h
  · rw [if_neg h, if_neg fun h' => h (same.2 h')]
    exact no h

/-! The next pieces -/

theorem follows_here : Follows (fun _ _ => True) (fun _ _ => True) here here := by
  apply Follows.of
  intro σ τ n σ' inside done _
  cases done
  exact ⟨τ.place, τ, rfl, trivial, inside⟩

/-- Where a pattern has ended there is the parenthesis instead. -/
def Seen (p p' : Option Piece) : Prop :=
  p'= some (p.getD (.plain ')'))

theorem SameText.seen {p p' : Option Piece} {rest rest' : List Char}
    (h : SameText p rest p' rest') : Seen p p' := by
  cases h with
  | more => rfl
  | ended => rfl

theorem follows_next? : Follows (fun _ _ => True) Seen next? next? := by
  apply Follows.of
  intro σ τ p σ' inside done _
  cases done
  exact ⟨τ.next, τ, rfl, inside.text.seen, inside⟩

/-- A reader that looks at the next piece first. -/
theorem FollowsFrom.next?_bind {g : Option Piece → Parse β} {g' : Option Piece → Parse β'}
    (inside : Inside σ τ)
    (ended : FollowsFrom σ τ wanted' R' (g none) (g' (some (.plain ')'))))
    (more : ∀ {p}, σ.next = some p → FollowsFrom σ τ wanted' R' (g (some p)) (g' (some p))) :
    FollowsFrom σ τ wanted' R' (next? >>= g) (next? >>= g') := by
  constructor
  intro b σ' done want
  have now : (g σ.next).run σ = .ok (b, σ') := done
  have now' : (next? >>= g').run τ = (g' τ.next).run τ := rfl
  rw [now', inside.text.seen]
  cases next : σ.next with
  | none =>
    rw [next] at now
    exact ended.gives now want
  | some p =>
    rw [next] at now
    exact (more next).gives now want

theorem follows_next?_bind {g : Option Piece → Parse β} {g' : Option Piece → Parse β'}
    (ended : Follows wanted' R' (g none) (g' (some (.plain ')'))))
    (more : ∀ {σ τ p}, Inside σ τ → σ.next = some p →
      FollowsFrom σ τ wanted' R' (g (some p)) (g' (some p))) :
    Follows wanted' R' (next? >>= g) (next? >>= g') :=
  ⟨fun inside => .next?_bind inside (ended.each inside) (more inside)⟩

theorem advance_plain {c : Char} {rest : List Char} (text : σ.rest = c :: rest)
    (plain : c ≠ '\\') :
    advance.run σ = .ok ((), { σ with next := some (.plain c), rest := rest }) := by
  rw [advance, StateT.run_bind, StateT.run_get, pure_bind]
  dsimp only
  rw [text]
  split
  · rename_i h
    cases h
  · rename_i h
    cases h
    exact absurd rfl plain
  · rename_i h
    cases h
    exact absurd rfl plain
  · rename_i h
    cases h
    rfl

/-- Looking at the next piece changes nothing else. -/
theorem advance_only (done : advance.run σ = .ok ((), σ')) :
    ∃ next rest, σ' = { σ with next := next, rest := rest } := by
  obtain ⟨_, _, ⟨⟩, done⟩ := run_bind_eq_ok.1 done
  split at done
  · cases done
    exact ⟨none, σ.rest, rfl⟩
  · cases done
  · cases done
    exact ⟨_, _, rfl⟩
  · cases done
    exact ⟨_, _, rfl⟩

theorem advance_text (text : SameText σ.next σ.rest τ.next τ.rest) (more : σ.next.isSome)
    (done : advance.run σ = .ok ((), σ')) :
    ∃ next rest, advance.run τ = .ok ((), { τ with next := next, rest := rest }) ∧
      SameText σ'.next σ'.rest next rest := by
  obtain ⟨total, next, rest, _, _, _, _, _⟩ := σ
  obtain ⟨total', next', rest', _, _, _, _, _⟩ := τ
  dsimp only at text more
  cases text with
  | ended => cases more
  | more =>
    obtain ⟨_, _, ⟨⟩, done⟩ := run_bind_eq_ok.1 done
    split at done
    · cases done
      rename_i ended
      subst ended
      exact ⟨_, _, rfl, .ended⟩
    · cases done
    · cases done
      rename_i c rest long
      subst long
      exact ⟨_, _, rfl, .more⟩
    · cases done
      rename_i c rest' lone pair long
      dsimp only at long
      subst long
      have plain : c ≠ '\\' := by
        intro slash
        cases rest' with
        | nil => exact lone slash rfl
        | cons d rest => exact pair d rest slash rfl
      exact ⟨_, _, advance_plain rfl plain, .more⟩

theorem advance_inside (inside : Inside σ τ) (more : σ.next.isSome)
    (done : advance.run σ = .ok ((), σ')) :
    ∃ τ', advance.run τ = .ok ((), τ') ∧ Inside σ' τ' := by
  obtain ⟨next, rest, step, text⟩ := advance_text inside.text more done
  obtain ⟨_, _, rfl⟩ := advance_only done
  exact ⟨_, step, { inside with text := text }⟩

theorem advance_follows (inside : Inside σ τ) (more : σ.next.isSome) :
    FollowsFrom σ τ (fun _ _ => True) Eq advance advance := by
  constructor
  intro _ σ' done _
  obtain ⟨τ', step, inside'⟩ := advance_inside inside more done
  exact ⟨(), τ', step, rfl, inside'⟩

theorem accept_true {c : Char} (next : τ.next = some (.plain c))
    (step : advance.run τ = .ok ((), σ')) : (accept c).run τ = .ok (true, σ') := by
  apply run_bind_eq_ok.2
  refine ⟨_, τ, rfl, ?_⟩
  rw [if_pos next]
  exact run_bind_eq_ok.2 ⟨(), σ', step, rfl⟩

theorem accept_false {c : Char} (other : τ.next ≠ some (.plain c)) :
    (accept c).run τ = .ok (false, τ) := by
  apply run_bind_eq_ok.2
  refine ⟨_, τ, rfl, ?_⟩
  rw [if_neg other]
  rfl

theorem Inside.next_of_some (inside : Inside σ τ) {p : Piece} (next : σ.next = some p) :
    τ.next = some p := by
  rw [inside.text.seen, next, Option.getD_some]

/-- Only the parenthesis behind the pattern can be taken for one in it. -/
theorem follows_accept (c : Char) :
    Follows (fun there _ => there = true ∨ c ≠ ')') Eq (accept c) (accept c) := by
  apply Follows.of
  intro σ τ there σ' inside done want
  obtain ⟨rfl, next, step⟩ | ⟨rfl, other, rfl⟩ := accept_cases done
  · obtain ⟨τ', step', inside'⟩ := advance_inside inside (by simp [next]) step
    exact ⟨true, τ', accept_true (inside.next_of_some next) step', rfl, inside'⟩
  · have other' : τ.next ≠ some (.plain c) := by
      cases next : σ'.next with
      | none =>
        rw [inside.text.seen, next, Option.getD_none]
        intro same
        cases same
        exact want.elim (nomatch ·) (· rfl)
      | some p => rwa [inside.next_of_some next, ← next]
    exact ⟨false, τ, accept_false other', rfl, inside⟩

theorem agrees_accept {c : Char} (other : c ≠ ')') : Agrees (accept c) (accept c) := by
  apply Follows.of
  intro σ τ there σ' inside done _
  exact ((follows_accept c).each inside).gives done (.inr other)

theorem follows_take? : Follows (fun p _ => p.isSome = true) Eq take? take? := by
  apply Follows.of
  intro σ τ p σ' inside done some
  obtain ⟨_, _, ⟨⟩, done⟩ := run_bind_eq_ok.1 done
  obtain ⟨_, ρ, step, ⟨⟩⟩ := run_bind_eq_ok.1 done
  obtain ⟨τ', step', inside'⟩ := advance_inside inside some step
  refine ⟨_, τ', run_bind_eq_ok.2 ⟨τ.next, τ, rfl, run_bind_eq_ok.2 ⟨(), τ', step', rfl⟩⟩, ?_,
    inside'⟩
  obtain ⟨q, next⟩ := Option.isSome_iff_exists.1 some
  rw [next, inside.next_of_some next]

/-- A reader that takes a piece, and cannot do without one. -/
theorem FollowsFrom.take?_bind {g : Option Piece → Parse β} {g' : Option Piece → Parse β'}
    (inside : Inside σ τ) (stops : ∀ ρ, ∃ e, (g none).run ρ = .error e)
    (later : ∀ {p ρ ρ'}, take?.run σ = .ok (some p, ρ) → Inside ρ ρ' →
      FollowsFrom ρ ρ' wanted' R' (g (some p)) (g' (some p))) :
    FollowsFrom σ τ wanted' R' (take? >>= g) (take? >>= g') := by
  apply (follows_take?.each inside).bind
  · intro p _ ρ ρ' step same inside
    cases same
    cases p with
    | none => exact (follows_of_fails stops).each inside
    | some p => exact later step inside
  · intro p ρ _ _ _ done _
    cases p with
    | none =>
      obtain ⟨e, failed⟩ := stops ρ
      cases failed.symm.trans done
    | some p => rfl

theorem follows_take?_bind {g : Option Piece → Parse β} {g' : Option Piece → Parse β'}
    (stops : ∀ ρ, ∃ e, (g none).run ρ = .error e)
    (later : ∀ p, Follows wanted' R' (g (some p)) (g' (some p))) :
    Follows wanted' R' (take? >>= g) (take? >>= g') :=
  ⟨fun inside => .take?_bind inside stops fun _ => (later _).each⟩

/-! Readers that go on until something comes -/

def Progress.pieces (p : Progress) : Nat :=
  p.rest.length + p.next.toList.length

theorem advance_pieces (more : σ.next.isSome) (done : advance.run σ = .ok ((), σ')) :
    σ'.pieces < σ.pieces := by
  obtain ⟨p, next⟩ := Option.isSome_iff_exists.1 more
  obtain ⟨_, _, ⟨⟩, done⟩ := run_bind_eq_ok.1 done
  split at done <;> cases done <;> simp [Progress.pieces, *]

/-- Rounds for the reading of a pattern, and for that inside of one more group: as many for both, or
more than there are pieces. -/
structure Enough (n m : Nat) (σ : Progress) : Prop where
  le : n ≤ m
  last : n = m ∨ σ.pieces < n

theorem Enough.zero {m : Nat} (h : Enough 0 m σ) : m = 0 := by
  have := h.last
  omega

theorem Enough.succ {n m : Nat} (h : Enough (n + 1) m σ) :
    ∃ k, m = k + 1 ∧ ∀ {σ'}, σ'.pieces < σ.pieces → Enough n k σ' := by
  have := h.le
  refine ⟨m - 1, by omega, fun {σ'} less => ⟨by omega, ?_⟩⟩
  have := h.last
  omega

theorem takeSome_inside {chars : List Char} (other : ')' ∉ chars) {n m : Nat}
    (inside : Inside σ τ) (enough : Enough n m σ) :
    FollowsFrom σ τ (fun _ _ => True) Eq (takeSome chars n) (takeSome chars m) := by
  induction n generalizing m σ τ with
  | zero =>
    obtain rfl := enough.zero
    exact (agrees_pure []).each inside
  | succ n ih =>
    obtain ⟨m, rfl, less⟩ := enough.succ
    unfold takeSome
    have passed : (Piece.plain ')').isAmong chars = false := by
      simpa [Piece.isAmong] using other
    apply FollowsFrom.next?_bind inside
    · simp only [passed, Bool.false_eq_true, if_false]
      exact (agrees_pure []).each inside
    intro p next
    dsimp only
    split
    · have more : σ.next.isSome := by simp [next]
      apply (advance_follows inside more).bind _ fun _ _ _ => trivial
      intro _ _ ρ ρ' step _ inside
      apply (ih inside (less (advance_pieces more step))).bind _ fun _ _ _ => trivial
      intro cs _ _ _ _ same inside
      cases same
      exact (agrees_pure _).each inside
    · exact (agrees_pure []).each inside

theorem agrees_takeSome {chars : List Char} (other : ')' ∉ chars) (n : Nat) :
    Agrees (takeSome chars n) (takeSome chars n) :=
  ⟨fun inside => takeSome_inside other inside ⟨Nat.le_refl n, .inl rfl⟩⟩

theorem SameText.rest_le {p p' : Option Piece} {rest rest' : List Char}
    (h : SameText p rest p' rest') : rest.length ≤ rest'.length := by
  cases h with
  | more => simp
  | ended => simp

/-- Two rounds more than the rest of the text has characters are more than enough. -/
theorem Inside.enough (inside : Inside σ τ) :
    Enough (σ.rest.length + 2) (τ.rest.length + 2) σ := by
  constructor
  · have := inside.text.rest_le
    omega
  · have : σ.next.toList.length ≤ 1 := by cases σ.next <;> simp
    unfold Progress.pieces
    omega

theorem agrees_takeAll {chars : List Char} (other : ')' ∉ chars) :
    Agrees (takeAll chars) (takeAll chars) :=
  .of fun inside done _ => (takeSome_inside other inside inside.enough).gives done trivial

theorem take?_pieces {p : Piece} (done : take?.run σ = .ok (some p, σ')) :
    σ'.pieces < σ.pieces := by
  obtain ⟨_, _, ⟨⟩, done⟩ := run_bind_eq_ok.1 done
  obtain ⟨_, ρ, step, same⟩ := run_bind_eq_ok.1 done
  obtain ⟨next, rfl⟩ := Prod.mk.inj (Except.ok.inj same)
  exact advance_pieces (by simp [next]) step

theorem takeName_inside {stop : Char} {what : String} {n m : Nat} {name : List Char}
    (inside : Inside σ τ) (enough : Enough n m σ) :
    FollowsFrom σ τ (fun _ _ => True) Eq (takeName.go stop what name n)
      (takeName.go stop what name m) := by
  induction n generalizing m σ τ name with
  | zero =>
    obtain rfl := enough.zero
    exact (agrees_pure name).each inside
  | succ n ih =>
    obtain ⟨m, rfl, less⟩ := enough.succ
    unfold takeName.go
    apply FollowsFrom.take?_bind inside
    · intro ρ
      dsimp only
      split
      · exact ⟨_, rfl⟩
      · exact ⟨_, rfl⟩
    intro p ρ ρ' step inside
    dsimp only
    split
    · split
      · exact (follows_failBefore ..).each inside
      · exact (agrees_pure name).each inside
    · exact ih inside (less (take?_pieces step))

theorem agrees_takeName (stop : Char) (what : String) :
    Agrees (takeName stop what) (takeName stop what) :=
  .of fun inside done _ => (takeName_inside inside inside.enough).gives done trivial

theorem agrees_letterEscape (c : Char) : Agrees (letterEscape c) (letterEscape c) :=
  follows_ite .rfl (fun _ => follows_failBefore ..) fun _ => agrees_pure _

theorem agrees_hexEscape (text : List Char) (count : Nat) :
    Agrees (hexEscape text count) (hexEscape text count) := by
  apply (agrees_takeSome (by decide) count).andThen
  intro ds
  apply follows_ite .rfl (fun _ => follows_failBefore_bind ..)
  intro _
  apply follows_ite .rfl (fun _ => follows_failBefore_bind ..)
  intro _
  exact agrees_pure _

theorem agrees_namedEscape : Agrees namedEscape namedEscape := by
  apply (agrees_accept (by decide)).andThen
  intro there
  apply follows_ite .rfl (fun _ => follows_failBefore_bind ..)
  intro _
  apply (agrees_takeName ..).andThen
  intro name
  exact follows_failBefore ..

theorem agrees_octalEscape (text : List Char) : Agrees (octalEscape text) (octalEscape text) := by
  apply (agrees_takeSome (by decide) 2).andThen
  intro ds
  apply follows_ite .rfl (fun _ => follows_failBefore_bind ..)
  intro _
  exact agrees_pure _

theorem agrees_classEscape (c : Char) : Agrees (classEscape c) (classEscape c) := by
  unfold classEscape
  split
  · exact agrees_pure _
  split
  · exact agrees_pure _
  dsimp only
  split
  · exact (agrees_hexEscape ..).andThen fun _ => agrees_pure _
  split
  · exact (agrees_hexEscape ..).andThen fun _ => agrees_pure _
  split
  · exact (agrees_hexEscape ..).andThen fun _ => agrees_pure _
  split
  · exact agrees_namedEscape.andThen fun _ => agrees_pure _
  split
  · exact (agrees_octalEscape _).andThen fun _ => agrees_pure _
  split
  · exact follows_failBefore ..
  · exact (agrees_letterEscape c).andThen fun _ => agrees_pure _

end Storyworld.Pattern
