import Storyworld.Proofs.Pattern.Nested

/-!
A pattern and the pattern as one group. If the first can be compiled, leaves no switches for the
whole and refers to groups by name only, then the other one can be compiled, and both match the same
texts. With switches for the whole the other one cannot be compiled.
-/

namespace Storyworld.Pattern

variable {α β : Type} {σ τ σ' τ' : Progress}

/-- Where the reading of a pattern begins. -/
def Progress.start (text : List Char) : Progress :=
  ⟨text.length, none, text, Flags.none, [], [], none, []⟩

/-- A repetition at the front has nothing to repeat. -/
theorem readSequence_mark {verbose first : Bool} {n : Nat} {ns : List Node}
    (next : σ.next = some (.plain '?')) :
    ¬ (readSequence verbose first [] n).run σ = .ok (ns, σ') := by
  intro done
  cases n with
  | zero => cases done
  | succ n =>
    rw [readSequence, run_bind_of_ok rfl, next] at done
    obtain ⟨_, ρ, -, done⟩ := run_bind_eq_ok.1 done
    obtain ⟨_, _, ⟨⟩, done⟩ := run_bind_eq_ok.1 done
    cases verbose with
    | false => cases done
    | true => cases done

/-- A group without a question mark is its alternatives in a state that knows one group more. -/
theorem readGroup_numbered {verbose : Bool} {start n : Nat} (other : τ.next ≠ some (.plain '?')) :
    (readGroup verbose start (n + 3)).run τ =
      (do
        let branches ← readBranches verbose false false n
        closeParen start
        let body := seqOf (joinBranches branches)
        closeGroup (τ.widths.length + 1) body
        return .element (.node (.group (τ.widths.length + 1) body)) : Parse GroupResult).run
          { τ with widths := τ.widths ++ [none] } := by
  rw [readGroup, run_bind_of_ok (accept_false other), if_pos Bool.not_false, readNumbered,
    run_bind_of_ok rfl, readBody]
  simp only [bind_assoc, pure_bind]

/-- What a sequence does with the first group in it. -/
theorem readSequence_open {verbose first : Bool} {es : List Element} {n : Nat}
    (next : τ.next = some (.plain '(')) (step : advance.run τ = .ok ((), τ')) :
    (readSequence verbose first es (n + 1)).run τ =
      (do
        match ← readGroup verbose (τ'.place - 1) n with
        | .element e => readSequence verbose first (e :: es) n
        | .nothing => readSequence verbose first es n
        | .flags =>
          if !first || !es.isEmpty then failAt .lateFlags (τ'.place - 1)
          else readSequence (← get).flags.verbose first es n : Parse (List Node)).run τ' := by
  rw [readSequence, run_bind_of_ok rfl, next]
  have other : ¬ (Piece.plain '(').isAmong ['|', ')'] = true := by decide
  dsimp only
  rw [if_neg other, run_bind_of_ok step, run_bind_of_ok rfl]
  cases verbose with
  | false => rfl
  | true => rfl

/-! From the beginning to the end -/

/-- The state at the end of a pattern that is whole. -/
structure Progress.Complete (p : Progress) : Prop where
  letters : (p.flags.ascii && p.flags.unicode) = false
  ended : p.next = none
  known : p.asked.find? (fun a => p.widths.length < a.1) = none

theorem readPattern_eq_ok {text : List Char} {node : Node} :
    readPattern.run (.start text) = .ok (node, σ') ↔
      ∃ σ branches, advance.run (.start text) = .ok ((), σ) ∧
        (readBranches false true true (4 * text.length + 8)).run σ = .ok (branches, σ') ∧
        σ'.Complete ∧ node = seqOf (joinBranches branches) := by
  constructor
  · intro done
    obtain ⟨_, σ, step, later⟩ := run_bind_eq_ok.1 done
    obtain ⟨_, _, rfl⟩ := advance_only step
    obtain ⟨_, _, ⟨⟩, done⟩ := run_bind_eq_ok.1 later
    obtain ⟨branches, ρ, read, done⟩ := run_bind_eq_ok.1 done
    obtain ⟨_, _, ⟨⟩, done⟩ := run_bind_eq_ok.1 done
    split at done
    · cases done
    rename_i letters
    split at done
    · cases done
    rename_i ended
    split at done
    · cases done
    rename_i known
    cases done
    exact ⟨_, branches, step, read, ⟨by simpa using letters, by simpa using ended, known⟩, rfl⟩
  · intro ⟨σ, branches, step, read, complete, same⟩
    obtain ⟨_, _, rfl⟩ := advance_only step
    rw [readPattern, run_bind_of_ok step, run_bind_of_ok rfl]
    refine (run_bind_of_ok read).trans ?_
    rw [run_bind_of_ok rfl, if_neg (by simp [complete.letters]), if_neg (by simp [complete.ended])]
    rw [complete.known, same]
    rfl

theorem compile_eq_ok {text : List Char} {q : Parsed} :
    compile text = .ok q ↔
      ∃ node σ, readPattern.run (.start text) = .ok (node, σ) ∧ q = ⟨node, σ.flags, σ.widths⟩ ∧
        node.defect? σ.flags.template (widthOf σ.widths) = none := by
  constructor
  · intro done
    obtain ⟨p, parsed, done⟩ := bind_eq_ok.1 done
    obtain ⟨⟨node, σ⟩, read, ⟨⟩⟩ := bind_eq_ok.1 parsed
    split at done
    · cases done
    rename_i sound
    cases done
    exact ⟨node, σ, read, rfl, sound⟩
  · intro ⟨node, σ, read, same, sound⟩
    have parsed : parse text = .ok q := bind_eq_ok.2 ⟨(node, σ), read, same ▸ rfl⟩
    apply bind_eq_ok.2
    refine ⟨q, parsed, ?_⟩
    subst same
    dsimp only
    rw [sound]
    rfl

/-- After the parenthesis in front of a pattern. -/
def Progress.opened (text : List Char) : Progress :=
  { Progress.start ('(' :: text ++ [')']) with
    next := some (.plain '('), rest := text ++ [')'] }

theorem advance_opened (text : List Char) :
    advance.run (.start ('(' :: text ++ [')'])) = .ok ((), .opened text) :=
  advance_plain rfl (by decide)

/-- What stood next does not matter for what comes after it. -/
theorem advance_behind (next : Option Piece) :
    advance.run { σ with next := next } = advance.run σ := by
  rw [advance, run_bind_of_ok rfl, run_bind_of_ok rfl]
  dsimp only
  split
  · rfl
  · rfl
  · rfl
  · rfl

/-- The first piece of a pattern is also the first one inside of the group. -/
theorem opened_inside {text : List Char} (step : advance.run (.start text) = .ok ((), σ))
    (other : σ.next ≠ some (.plain '?')) :
    ∃ τ, advance.run (.opened text) = .ok ((), τ) ∧ τ.next ≠ some (.plain '?') ∧ τ.widths = [] ∧
      Inside σ { τ with widths := [none] } := by
  rw [← advance_behind (some (.plain '('))] at step
  obtain ⟨next, rest, step', seen⟩ := @advance_text _ (.opened text) _ .more rfl step
  obtain ⟨first, _, rfl⟩ := advance_only step
  refine ⟨_, step', ?_, rfl, ⟨seen, rfl, rfl, nofun, rfl, rfl, rfl⟩⟩
  dsimp only at seen other ⊢
  rw [seen.seen]
  cases first with
  | none => decide
  | some p => exact other

theorem readSequence_none {verbose first : Bool} {es : List Element} {n : Nat}
    (ended : σ.next = none) :
    (readSequence verbose first es (n + 1)).run σ = .ok (nodesOf es, σ) := by
  rw [readSequence, run_bind_of_ok rfl, ended]
  rfl

section

variable {text : List Char} (step : advance.run (.opened text) = .ok ((), τ))

include step

theorem readPattern_wrapped {e : Element}
    (group : (readGroup false (τ.place - 1) (4 * text.length + 14)).run τ = .ok (.element e, σ))
    (complete : σ.Complete) :
    readPattern.run (.start ('(' :: text ++ [')'])) = .ok (seqOf e.nodes, σ) := by
  apply readPattern_eq_ok.2
  have fuel : 4 * ('(' :: text ++ [')']).length + 8 = 4 * text.length + 16 := by
    simp only [List.length_cons, List.length_append, List.length_nil]
    omega
  have single : seqOf e.nodes = seqOf (joinBranches [nodesOf [e]]) := by
    simp [nodesOf, joinBranches]
  refine ⟨.opened text, [nodesOf [e]], advance_opened text, ?_, complete, single⟩
  rw [fuel, readBranches]
  have sequence : (readSequence false true [] (4 * text.length + 15)).run (.opened text) =
      .ok (nodesOf [e], σ) := by
    rw [readSequence_open rfl step, run_bind_of_ok group]
    exact readSequence_none complete.ended
  refine (run_bind_of_ok sequence).trans ?_
  rw [run_bind_of_ok (accept_false (by simp [complete.ended]))]
  rfl

theorem compile_wrapped_error {e : Failure}
    (failed : (readGroup false (τ.place - 1) (4 * text.length + 14)).run τ = .error e) :
    compile ('(' :: text ++ [')']) = .error e := by
  have sequence : (readSequence false true [] (4 * text.length + 15)).run (.opened text) =
      .error e := by
    rw [readSequence_open rfl step, run_bind_of_error failed]
  have branches : (readBranches false true true (4 * text.length + 16)).run (.opened text) =
      .error e := by
    rw [readBranches]
    exact run_bind_of_error sequence
  have fuel : 4 * (Progress.opened text).total + 8 = 4 * text.length + 16 := by
    simp only [Progress.opened, Progress.start, List.length_cons, List.length_append,
      List.length_nil]
    omega
  have read : readPattern.run (.start ('(' :: text ++ [')'])) = .error e := by
    rw [readPattern, run_bind_of_ok (advance_opened text), run_bind_of_ok rfl, fuel]
    exact run_bind_of_error branches
  apply bind_eq_error.2
  left
  exact bind_eq_error.2 (.inl read)

end

/-- The group around a pattern that has been read to its end. -/
theorem readGroup_whole (start : Nat) {n : Nat} {branches : List (List Node)}
    (other : τ.next ≠ some (.plain '?')) (alone : τ.widths = [])
    (read : (readBranches false false false n).run { τ with widths := [none] } =
      .ok (branches, τ')) (last : τ'.next = some (.plain ')')) (ended : τ'.rest = []) :
    (readGroup false start (n + 3)).run τ =
      let body := seqOf (joinBranches branches)
      let width := body.width (widthOf τ'.widths)
      .ok (.element (.node (.group 1 body)),
        { τ' with next := none, widths := τ'.widths.set 0 (some width) }) := by
  have close : advance.run τ' = .ok ((), { τ' with next := none }) := by
    rw [advance, run_bind_of_ok rfl, ended]
    rfl
  rw [readGroup_numbered other, alone]
  refine (run_bind_of_ok read).trans ?_
  rw [closeParen, bind_assoc, run_bind_of_ok (accept_true last close)]
  rfl

theorem readBranches_mark {verbose top first : Bool} {n : Nat} {branches : List (List Node)}
    (next : σ.next = some (.plain '?')) :
    ¬ (readBranches verbose top first n).run σ = .ok (branches, σ') := by
  intro done
  cases n with
  | zero => cases done
  | succ n =>
    rw [readBranches] at done
    obtain ⟨ns, ρ, sequence, -⟩ := run_bind_eq_ok.1 done
    exact readSequence_mark next sequence

/-- A pattern that refers to groups by name can be compiled as one group, and its own groups are
counted one further there. -/
theorem compile_wrapped {text : List Char} {q : Parsed} (done : compile text = .ok q)
    (plain : q.flags = .none) (byName : q.node.byName = true) :
    compile ('(' :: text ++ [')']) = .ok q.wrapped ∧ q.node.counted = true := by
  obtain ⟨node, ρ, whole, rfl, sound⟩ := compile_eq_ok.1 done
  obtain ⟨σ, branches, step, read, complete, rfl⟩ := readPattern_eq_ok.1 whole
  dsimp only at plain byName
  have other : σ.next ≠ some (.plain '?') := fun mark => readBranches_mark mark read
  obtain ⟨τ, step', other', alone, inside⟩ := opened_inside step other
  have follows := (followsWith (Nat.le_add_right (4 * text.length + 8) 3)).branches false true true
    (.inr rfl)
  rw [byName_seqOf, byName_pervades.joinBranches] at byName
  obtain ⟨branches', τ', read', alike, inside'⟩ :=
    (follows.each inside).gives read ⟨byName, nofun, fun _ => plain⟩
  obtain ⟨same, counted⟩ := alike.join.seqOf
  obtain ⟨-, last, ended⟩ := inside'.ended complete.ended
  have group := readGroup_whole (τ.place - 1) other' alone read' last ended
  rw [same, inside'.widths] at group
  dsimp only at group
  rw [width_shifted (widthOf_beside ρ.widths none) counted] at group
  refine ⟨compile_eq_ok.2 ⟨_, _, readPattern_wrapped step' group ⟨?_, rfl, ?_⟩, ?_, ?_⟩, counted⟩
  · exact (congrArg (fun f : Flags => f.ascii && f.unicode) inside'.flags).trans complete.letters
  · dsimp only
    rw [inside'.asked]
    rfl
  · dsimp only
    rw [inside'.flags]
    rfl
  · dsimp only
    rw [inside'.flags]
    exact (defect_shifted (widthOf_beside ρ.widths _) counted _).trans sound

/-! Switches for the whole pattern -/

/-- Switches that stand at the front of the pattern come too late inside of the group. -/
theorem readSequence_late {n m : Nat} {ns : List Node} (le : n ≤ m) (inside : Inside σ τ)
    (before : σ.flags = .none) (done : (readSequence false true [] n).run σ = .ok (ns, σ'))
    (after : σ'.flags ≠ .none) :
    ∃ bad, (readSequence false false [] m).run τ = .error (.malformed bad) := by
  induction n generalizing m σ τ with
  | zero => cases done
  | succ n ih =>
    obtain ⟨k, rfl⟩ := Nat.exists_eq_add_of_lt le
    have changed : σ'.flags ≠ σ.flags := fun same => after (same.trans before)
    obtain ⟨next, ρ, r, ρ', step, group, gives⟩ := readSequence_front done changed
    obtain ⟨τ', step', inside'⟩ := advance_inside inside (by simp [next]) step
    have below : n ≤ n + k := Nat.le_add_right n k
    have follows := ((followsWith below).group false (ρ.place - 1) (τ'.place - 1)).each inside'
    rw [readSequence_open (inside.next_of_some next) step']
    obtain rfl | ⟨rfl, more⟩ := gives
    · obtain ⟨_, τ'', group', alike, -⟩ := follows.gives group rfl
      cases alike
      rw [run_bind_of_ok group']
      exact ⟨_, rfl⟩
    · obtain ⟨_, τ'', group', alike, inside''⟩ := follows.gives group rfl
      cases alike
      rw [run_bind_of_ok group']
      have same := ((readsWith n).group false _).same group nofun
      rw [tame_advance.same step trivial] at same
      exact ih below inside'' (same.trans before) more

theorem readBranches_late {n m : Nat} {branches : List (List Node)} (le : n ≤ m)
    (inside : Inside σ τ) (before : σ.flags = .none)
    (done : (readBranches false true true n).run σ = .ok (branches, σ'))
    (after : σ'.flags ≠ .none) :
    ∃ bad, (readBranches false false false m).run τ = .error (.malformed bad) := by
  cases n with
  | zero => cases done
  | succ n =>
    obtain ⟨k, rfl⟩ := Nat.exists_eq_add_of_lt le
    rw [readBranches] at done
    obtain ⟨ns, ρ, first, done⟩ := run_bind_eq_ok.1 done
    have changed : ρ.flags ≠ .none := by
      intro same
      obtain ⟨more, ρ', bar, done⟩ := run_bind_eq_ok.1 done
      rw [← (tame_accept _).same bar trivial] at same
      split at done
      · cases done
        exact after same
      · obtain ⟨_, _, ⟨⟩, done⟩ := run_bind_eq_ok.1 done
        obtain ⟨others, _, read, ⟨⟩⟩ := run_bind_eq_ok.1 done
        exact after ((((readsWith n).branches _ true false).same read rfl).trans same)
    obtain ⟨bad, failed⟩ := readSequence_late (Nat.le_add_right n k) inside before first changed
    refine ⟨bad, ?_⟩
    rw [readBranches]
    exact run_bind_of_error failed

/-- A pattern with switches for the whole cannot be compiled as one group. -/
theorem compile_wrapped_flags {text : List Char} {q : Parsed} (done : compile text = .ok q)
    (switched : q.flags ≠ .none) :
    ∃ bad, compile ('(' :: text ++ [')']) = .error (.malformed bad) := by
  obtain ⟨node, ρ, whole, rfl, -⟩ := compile_eq_ok.1 done
  obtain ⟨σ, branches, step, read, -, -⟩ := readPattern_eq_ok.1 whole
  have other : σ.next ≠ some (.plain '?') := fun mark => readBranches_mark mark read
  obtain ⟨τ, step', other', alone, inside⟩ := opened_inside step other
  have le : 4 * text.length + 8 ≤ 4 * text.length + 11 := Nat.le_add_right _ 3
  obtain ⟨bad, failed⟩ := readBranches_late le inside (tame_advance.same step trivial) read switched
  refine ⟨bad, compile_wrapped_error step' ?_⟩
  rw [readGroup_numbered other', alone]
  exact run_bind_of_error failed

end Storyworld.Pattern
