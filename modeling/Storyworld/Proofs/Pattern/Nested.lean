import Storyworld.Proofs.Pattern.Elements
import Storyworld.Proofs.Pattern.Faults

/-!
The readers of groups and sequences, which call each other, inside of one more group. They go along
with those outside as long as the elements refer to groups by name only and no switches are left for
the whole pattern.
-/

namespace Storyworld.Pattern

variable {σ τ σ' : Progress}

/-! What a result holds of that which was read before -/

theorem nodesOf_cons (e : Element) (es : List Element) :
    nodesOf (e :: es) = nodesOf es ++ e.nodes := by
  simp [nodesOf]

theorem repeatLast_byName {place : Nat} {counts : Nat × Option Nat} {es es' : List Element}
    (done : (repeatLast place counts es).run σ = .ok (es', σ')) :
    (nodesOf es').all Node.byName = (nodesOf es).all Node.byName := by
  unfold repeatLast at done
  split at done
  · cases done
  · cases done
  · cases done
  · obtain ⟨greed, _, _, ⟨⟩⟩ := run_bind_eq_ok.1 done
    simp [nodesOf_cons, Element.nodes, Node.byName]

/-- What was read before stays in the sequence. -/
theorem readSequence_byName {verbose first : Bool} {es : List Element} {n : Nat} {ns : List Node}
    (done : (readSequence verbose first es n).run σ = .ok (ns, σ'))
    (byName : ns.all Node.byName = true) : (nodesOf es).all Node.byName = true := by
  induction n generalizing verbose es σ with
  | zero => cases done
  | succ n ih =>
    have more {verbose : Bool} {e : Element} {ρ : Progress}
        (done : (readSequence verbose first (e :: es) n).run ρ = .ok (ns, σ')) :
        (nodesOf es).all Node.byName = true := by
      have all := ih done
      rw [nodesOf_cons, List.all_append, Bool.and_eq_true] at all
      exact all.1
    rw [readSequence] at done
    obtain ⟨p, _, ⟨⟩, done⟩ := run_bind_eq_ok.1 done
    split at done
    · split at done
      · cases done
        exact byName
      obtain ⟨_, ρ, -, done⟩ := run_bind_eq_ok.1 done
      obtain ⟨_, _, ⟨⟩, done⟩ := run_bind_eq_ok.1 done
      dsimp only at done
      split at done
      · exact ih done
      split at done
      · obtain ⟨_, ρ', -, done⟩ := run_bind_eq_ok.1 done
        exact ih done
      split at done
      · obtain ⟨m, ρ', -, done⟩ := run_bind_eq_ok.1 done
        exact more done
      · obtain ⟨m, ρ', -, done⟩ := run_bind_eq_ok.1 done
        exact more done
      · exact more done
      · exact more done
      · exact more done
      · obtain ⟨r, ρ', -, done⟩ := run_bind_eq_ok.1 done
        cases r with
        | element e => exact more done
        | nothing => exact ih done
        | flags =>
          dsimp only at done
          split at done
          · cases done
          · obtain ⟨_, _, -, done⟩ := run_bind_eq_ok.1 done
            exact ih done
      · obtain ⟨counts, ρ', -, done⟩ := run_bind_eq_ok.1 done
        cases counts with
        | none => exact more done
        | some counts =>
          obtain ⟨es', _, last, done⟩ := run_bind_eq_ok.1 done
          rw [← repeatLast_byName last]
          exact ih done
    · cases done
      exact byName

theorem byName_of_cons {verbose first : Bool} {e : Element} {es : List Element} {n : Nat}
    {ns : List Node} (done : (readSequence verbose first (e :: es) n).run σ = .ok (ns, σ'))
    (byName : ns.all Node.byName = true) : e.nodes.all Node.byName = true := by
  have all := readSequence_byName done byName
  rw [nodesOf_cons, List.all_append, Bool.and_eq_true] at all
  exact all.2

/-- At the end of the pattern there is nothing more to be read. -/
theorem readSequence_ended {verbose first : Bool} {es : List Element} {n : Nat} {ns : List Node}
    (ended : σ.next = none) (done : (readSequence verbose first es n).run σ = .ok (ns, σ')) :
    σ' = σ := by
  cases n with
  | zero => cases done
  | succ n =>
    rw [readSequence] at done
    obtain ⟨p, _, ⟨⟩, done⟩ := run_bind_eq_ok.1 done
    rw [ended] at done
    cases done
    rfl

theorem closeParen_next {start : Nat} (done : (closeParen start).run σ = .ok ((), σ')) :
    σ.next.isSome = true := by
  obtain ⟨b, ρ, there, done⟩ := run_bind_eq_ok.1 done
  obtain ⟨rfl, next, -⟩ | ⟨rfl, -⟩ := accept_cases there
  · rw [next]
    rfl
  · cases done

theorem flagsOn_ne_none {on f : Flags} {c : Char} {n : Nat} {r : Flags × Piece}
    (done : (flagsOn on c f n).run σ = .ok (r, σ')) (some : on ≠ .none ∨ f ≠ .none ∧ 0 < n) :
    r.1 ≠ .none := by
  induction n generalizing on c f σ with
  | zero =>
    cases done
    exact some.resolve_right fun h => absurd h.2 (Nat.lt_irrefl 0)
  | succ n ih =>
    have more : on.union f ≠ .none := by
      intro none
      rw [Flags.union_eq_none] at none
      exact some.elim (· none.1) (·.1 none.2)
    unfold flagsOn at done
    split at done
    · cases done
    dsimp only at done
    split at done
    · cases done
    obtain ⟨p, _, -, done⟩ := run_bind_eq_ok.1 done
    cases p with
    | none => cases done
    | some p =>
      dsimp only at done
      split at done
      · cases done
        exact more
      · split at done
        · exact ih done (.inl more)
        · cases done

theorem pieceFlag?_some {p : Piece} {c : Char} {f : Flags} (h : pieceFlag? p = some (c, f)) :
    flagOf? c = some f := by
  cases p with
  | escaped d => cases h
  | plain d =>
    obtain ⟨g, flag, same⟩ := Option.map_eq_some_iff.1 h
    cases same
    exact flag

theorem readOn_ne_none {p : Piece} {r : Flags × Piece} (other : p ≠ .plain ')')
    (done : (readOn p).run σ = .ok (r, σ')) (stop : r.2 = .plain ')') : r.1 ≠ .none := by
  unfold readOn at done
  split at done
  · rename_i c f flag
    obtain ⟨_, _, ⟨⟩, done⟩ := run_bind_eq_ok.1 done
    have letter : c ≠ 'L' := by
      intro bytes
      unfold flagsOn at done
      rw [if_pos bytes] at done
      cases done
    have some := flagOf?_ne_none (pieceFlag?_some flag) letter
    exact flagsOn_ne_none done (.inr ⟨some, Nat.succ_pos _⟩)
  · cases done
    exact absurd stop other

/-- Switches for the whole pattern are some. -/
theorem readFlags_ne_none {p : Piece} (other : p ≠ .plain ')')
    (done : (readFlags p).run σ = .ok (none, σ')) : σ'.flags ≠ .none := by
  obtain ⟨r, ρ, read, done⟩ := run_bind_eq_ok.1 done
  dsimp only at done
  split at done
  · rename_i stop
    cases done
    exact fun none => readOn_ne_none other read stop (Flags.union_eq_none.1 none).2
  · split at done
    · cases done
    obtain ⟨off, _, -, done⟩ := run_bind_eq_ok.1 done
    split at done
    · cases done
    split at done
    · cases done
    · cases done

theorem readLook_ne_flags {verbose ahead negated : Bool} {start n : Nat} :
    ¬ (readLook verbose start ahead negated n).run σ = .ok (.flags, σ') := by
  intro done
  cases n with
  | zero => cases done
  | succ n =>
    rw [readLook] at done
    obtain ⟨outermost, _, -, done⟩ := run_bind_eq_ok.1 done
    obtain ⟨branches, _, -, done⟩ := run_bind_eq_ok.1 done
    obtain ⟨_, _, -, done⟩ := run_bind_eq_ok.1 done
    obtain ⟨_, _, -, ⟨⟩⟩ := run_bind_eq_ok.1 done

theorem readNumbered_ne_flags {verbose : Bool} {start n : Nat} {name : Option (List Char)} :
    ¬ (readNumbered verbose start name n).run σ = .ok (.flags, σ') := by
  intro done
  obtain ⟨e, same⟩ := readNumbered_element done
  cases same

theorem readGroup_flags {verbose : Bool} {start n : Nat}
    (done : (readGroup verbose start n).run σ = .ok (.flags, σ')) : σ'.flags ≠ .none := by
  cases n with
  | zero => cases done
  | succ n =>
    rw [readGroup] at done
    obtain ⟨extended, ρ, -, done⟩ := run_bind_eq_ok.1 done
    split at done
    · exact absurd done readNumbered_ne_flags
    obtain ⟨p, ρ, -, done⟩ := run_bind_eq_ok.1 done
    cases p with
    | none => cases done
    | some p =>
      dsimp only at done
      split at done
      · obtain ⟨named, _, -, done⟩ := run_bind_eq_ok.1 done
        split at done
        · obtain ⟨name, _, -, done⟩ := run_bind_eq_ok.1 done
          obtain ⟨_, _, -, done⟩ := run_bind_eq_ok.1 done
          exact absurd done readNumbered_ne_flags
        · obtain ⟨again, _, -, done⟩ := run_bind_eq_ok.1 done
          split at done
          · obtain ⟨_, _, -, ⟨⟩⟩ := run_bind_eq_ok.1 done
          · obtain ⟨q, _, -, done⟩ := run_bind_eq_ok.1 done
            cases q with
            | none => cases done
            | some q => cases done
      · obtain ⟨_, _, -, ⟨⟩⟩ := run_bind_eq_ok.1 done
      · obtain ⟨there, _, -, done⟩ := run_bind_eq_ok.1 done
        split at done
        · cases done
        · cases done
      · exact absurd done readLook_ne_flags
      · exact absurd done readLook_ne_flags
      · obtain ⟨q, _, -, done⟩ := run_bind_eq_ok.1 done
        cases q with
        | none => cases done
        | some q =>
          dsimp only at done
          split at done
          · cases done
          · exact absurd done readLook_ne_flags
      · obtain ⟨r, _, -, done⟩ := run_bind_eq_ok.1 done
        obtain ⟨yes, _, -, done⟩ := run_bind_eq_ok.1 done
        obtain ⟨no, _, -, done⟩ := run_bind_eq_ok.1 done
        obtain ⟨_, _, -, ⟨⟩⟩ := run_bind_eq_ok.1 done
      · obtain ⟨_, _, -, ⟨⟩⟩ := run_bind_eq_ok.1 done
      · split at done
        · cases done
        rename_i known
        obtain ⟨r, _, switches, done⟩ := run_bind_eq_ok.1 done
        cases r with
        | none =>
          cases done
          apply readFlags_ne_none _ switches
          intro closing
          rw [closing] at known
          exact known rfl
        | some r => obtain ⟨_, _, -, ⟨⟩⟩ := run_bind_eq_ok.1 done

/-! The two readings -/

def GroupResult.byName : GroupResult → Bool
  | .element e => e.nodes.all Node.byName
  | _ => true

inductive GroupAlike : GroupResult → GroupResult → Prop where
  | element {e : Element} (counted : e.counted = true) :
    GroupAlike (.element e) (.element e.shifted)
  | nothing : GroupAlike .nothing .nothing
  | flags : GroupAlike .flags .flags

def BranchesAlike (bs bs' : List (List Node)) : Prop :=
  bs' = bs.map (List.map Node.shifted) ∧ bs.all (·.all Node.counted) = true

theorem BranchesAlike.cons {ns ns' : List Node} {bs bs' : List (List Node)}
    (rest : BranchesAlike bs bs') (first : NodesAlike ns ns') :
    BranchesAlike (ns :: bs) (ns' :: bs') := by
  refine ⟨?_, ?_⟩
  · rw [List.map_cons, ← first.1, ← rest.1]
  · rw [List.all_cons, first.2, rest.2]
    rfl

theorem BranchesAlike.join {bs bs' : List (List Node)} (alike : BranchesAlike bs bs') :
    NodesAlike (joinBranches bs) (joinBranches bs') := by
  obtain ⟨rfl, counted⟩ := alike
  exact ⟨joinBranches_shifted bs, (counted_pervades.joinBranches bs).trans counted⟩

theorem NodeAlike.element {n n' : Node} (alike : NodeAlike n n') :
    GroupAlike (.element (.node n)) (.element (.node n')) := by
  obtain ⟨rfl, counted⟩ := alike
  apply GroupAlike.element (e := .node n)
  simpa [Element.counted, Element.nodes] using counted

namespace NodeAlike

variable {body body' : Node} (alike : NodeAlike body body')

include alike

theorem group {i j : Nat} (next : Next i j) : NodeAlike (.group i body) (.group j body') := by
  obtain ⟨rfl, positive⟩ := next
  obtain ⟨rfl, counted⟩ := alike
  exact ⟨rfl, by simp [Node.counted, positive, counted]⟩

theorem «scoped» (on off : Flags) : NodeAlike (.scoped on off body) (.scoped on off body') :=
  ⟨congrArg (Node.scoped on off) alike.1, alike.2⟩

theorem atomic : NodeAlike (.atomic body) (.atomic body') :=
  ⟨congrArg Node.atomic alike.1, alike.2⟩

theorem look (ahead negated : Bool) :
    NodeAlike (.look ahead negated body) (.look ahead negated body') :=
  ⟨congrArg (Node.look ahead negated) alike.1, alike.2⟩

theorem condition {i j : Nat} (named : Bool) {no no' : Node} (next : Next i j)
    (alike' : NodeAlike no no') :
    NodeAlike (.condition i named body no) (.condition j named body' no') := by
  obtain ⟨rfl, positive⟩ := next
  obtain ⟨rfl, counted⟩ := alike
  obtain ⟨rfl, counted'⟩ := alike'
  exact ⟨rfl, by simp [Node.counted, positive, counted, counted']⟩

end NodeAlike

theorem follows_readOtherwise {wanted : List Node → Progress → Prop}
    {branch branch' : Parse (List Node)} (h : Follows wanted NodesAlike branch branch') :
    Follows wanted NodesAlike (readOtherwise branch) (readOtherwise branch') := by
  apply (agrees_accept (by decide)).andThen
  intro more
  apply follows_ite .rfl _ fun _ => follows_pure ⟨rfl, rfl⟩
  intro _
  apply h.bind
  · intro no no' alike
    apply follows_next?.andThen
    intro p p' seen
    have bar : p = some (.plain '|') ↔ p' = some (.plain '|') := by
      obtain rfl := seen
      cases p with
      | none => decide
      | some p => rfl
    exact follows_ite bar (fun _ => follows_failBefore ..) fun _ => follows_pure alike
  · intro no _ b _ done want
    obtain ⟨p, _, ⟨⟩, done⟩ := run_bind_eq_ok.1 done
    split at done
    · cases done
    · cases done
      exact want

theorem readOtherwise_next {branch : Parse (List Node)} {ns : List Node}
    (done : (readOtherwise branch).run σ = .ok (ns, σ')) (more : σ'.next.isSome = true) :
    σ.next.isSome = true := by
  obtain ⟨bar, ρ, there, later⟩ := run_bind_eq_ok.1 done
  obtain ⟨rfl, next, -⟩ | ⟨rfl, -, rfl⟩ := accept_cases there
  · rw [next]
    rfl
  · cases later
    exact more

/-- What is wanted of a reading at the top: it leaves no switches for the whole pattern. -/
def Plain (top : Bool) (σ : Progress) : Prop :=
  top = true → σ.flags = .none

theorem plain_below : Plain false σ :=
  fun top => absurd top Bool.false_ne_true

theorem plain_before_branches {verbose top : Bool} {n : Nat} {ns : List Node}
    {bs : List (List Node)}
    (done : (readBranches verbose top false n >>= fun bs => pure (ns :: bs)).run σ = .ok (bs, σ'))
    (plain : Plain top σ') : Plain top σ := by
  intro atTop
  obtain ⟨_, _, read, ⟨⟩⟩ := run_bind_eq_ok.1 done
  exact ((readsWith n).branches verbose top false).grows read (plain atTop)

/-- What is wanted of a reading: groups are referred to by name only, and it is plain. A verbose
comment must not go on to the end, since it would take the parenthesis. -/
structure Wanted {α : Type} (test : α → Bool) (verbose top : Bool) (a : α) (σ : Progress) :
    Prop where
  byName : test a = true
  goesOn : verbose = true → σ.next.isSome = true
  plain : Plain top σ

/-- The readers of a pattern and those inside of one more group, with so much fuel each. -/
structure FollowsWith (n m : Nat) : Prop where
  branches (verbose top first : Bool) (terse : top = false ∨ verbose = false) :
    Follows (Wanted (·.all (·.all Node.byName)) verbose top) BranchesAlike
      (readBranches verbose top first n) (readBranches verbose false false m)
  sequence (verbose first : Bool) {es es' : List Element} (alike : ElementsAlike es es') :
    Follows (Wanted (·.all Node.byName) verbose first) NodesAlike
      (readSequence verbose first es n) (readSequence verbose false es' m)
  body (verbose : Bool) (start start' : Nat) :
    Follows (fun ns _ => ns.all Node.byName = true) NodesAlike (readBody verbose start n)
      (readBody verbose start' m)
  numbered (verbose : Bool) (start start' : Nat) (name : Option (List Char)) :
    Follows (fun r _ => r.byName = true) GroupAlike (readNumbered verbose start name n)
      (readNumbered verbose start' name m)
  group (verbose : Bool) (start start' : Nat) :
    Follows (fun r _ => r.byName = true) GroupAlike (readGroup verbose start n)
      (readGroup verbose start' m)
  look (verbose : Bool) (start start' : Nat) (ahead negated : Bool) :
    Follows (fun r _ => r.byName = true) GroupAlike (readLook verbose start ahead negated n)
      (readLook verbose start' ahead negated m)

namespace FollowsWith

variable {n m : Nat} (below : FollowsWith n m)

include below

theorem body_succ (verbose : Bool) (start start' : Nat) :
    Follows (fun ns _ => ns.all Node.byName = true) NodesAlike (readBody verbose start (n + 1))
      (readBody verbose start' (m + 1)) := by
  rw [readBody, readBody]
  apply (below.branches verbose false false (.inl rfl)).bind
  · intro bs bs' alike
    apply (agrees_closeParen start start').andThen
    exact fun _ => follows_pure alike.join
  · intro bs ρ ns _ done byName
    obtain ⟨_, _, closing, ⟨⟩⟩ := run_bind_eq_ok.1 done
    rw [byName_pervades.joinBranches] at byName
    exact ⟨byName, fun _ => closeParen_next closing, plain_below⟩

theorem numbered_succ (verbose : Bool) (start start' : Nat) (name : Option (List Char)) :
    Follows (fun r _ => r.byName = true) GroupAlike (readNumbered verbose start name (n + 1))
      (readNumbered verbose start' name (m + 1)) := by
  rw [readNumbered, readNumbered]
  apply (follows_openGroup name).andThen
  intro i j next
  apply (below.body verbose start start').bind
  · intro ns ns' alike
    apply (agrees_closeGroup next alike.seqOf).andThen
    intro _
    exact follows_pure (alike.seqOf.group next).element
  · intro ns _ r _ done byName
    obtain ⟨_, _, -, ⟨⟩⟩ := run_bind_eq_ok.1 done
    simpa [GroupResult.byName, Element.nodes, Node.byName] using byName

theorem look_succ (verbose : Bool) (start start' : Nat) (ahead negated : Bool) :
    Follows (fun r _ => r.byName = true) GroupAlike
      (readLook verbose start ahead negated (n + 1))
      (readLook verbose start' ahead negated (m + 1)) := by
  rw [readLook, readLook]
  apply (agrees_beginLook ahead).andThen
  intro outermost
  apply (below.branches verbose false false (.inl rfl)).bind
  · intro bs bs' alike
    apply (agrees_endLook outermost).andThen
    intro _
    apply (agrees_closeParen start start').andThen
    intro _
    exact follows_pure (alike.join.seqOf.look ahead negated).element
  · intro bs ρ r _ done byName
    obtain ⟨_, _, ⟨⟩, done⟩ := run_bind_eq_ok.1 done
    obtain ⟨_, _, closing, ⟨⟩⟩ := run_bind_eq_ok.1 done
    have more := closeParen_next closing
    refine ⟨?_, fun _ => ?_, plain_below⟩
    · simpa [GroupResult.byName, Element.nodes, Node.byName, byName_pervades.joinBranches]
        using byName
    · split at more
      · exact more
      · exact more

theorem branches_succ (verbose top first : Bool) (terse : top = false ∨ verbose = false) :
    Follows (Wanted (·.all (·.all Node.byName)) verbose top) BranchesAlike
      (readBranches verbose top first (n + 1)) (readBranches verbose false false (m + 1)) := by
  rw [readBranches, readBranches]
  apply (below.sequence verbose (top && first) ⟨rfl, rfl⟩).bind
  · intro ns ns' alike
    apply (agrees_accept (by decide)).andThen
    intro more
    apply follows_ite .rfl
    · intro _
      exact follows_pure (BranchesAlike.cons ⟨rfl, rfl⟩ alike)
    · intro _
      constructor
      intro σ τ inside
      apply FollowsFrom.get_bind
      by_cases plain : Plain top σ
      · have same : (if top = true then σ.flags.verbose else verbose) = verbose := by
          cases top with
          | false => rfl
          | true =>
            have terse : verbose = false := by simpa using terse
            rw [if_pos rfl, plain rfl, terse]
            rfl
        simp only [same, Bool.false_eq_true, if_false]
        apply ((below.branches verbose top false terse).bind _ _).each inside
        · intro bs bs' rest
          exact follows_pure (rest.cons alike)
        · intro bs _ _ _ done want
          cases done
          have each := want.byName
          rw [List.all_cons, Bool.and_eq_true] at each
          exact ⟨each.2, want.goesOn, want.plain⟩
      · constructor
        intro bs σ' done want
        exact absurd (plain_before_branches done want.plain) plain
  · intro ns ρ bs σ' done want
    obtain ⟨more, ρ', there, later⟩ := run_bind_eq_ok.1 done
    obtain ⟨rfl, next, -⟩ | ⟨rfl, -, rfl⟩ := accept_cases there
    · obtain ⟨_, _, ⟨⟩, later⟩ := run_bind_eq_ok.1 later
      have plain := plain_before_branches later want.plain
      obtain ⟨_, _, -, ⟨⟩⟩ := run_bind_eq_ok.1 later
      have each := want.byName
      rw [List.all_cons, Bool.and_eq_true] at each
      refine ⟨each.1, fun _ => by simp [next], fun top => ?_⟩
      exact (tame_accept _).grows there (plain (Bool.and_eq_true_iff.1 top).1)
    · cases later
      refine ⟨by simpa using want.byName, want.goesOn, fun top => ?_⟩
      exact want.plain (Bool.and_eq_true_iff.1 top).1

theorem sequence_node (verbose first : Bool) {es es' : List Element}
    (alike : ElementsAlike es es') {a a' : Node} (same : NodeAlike a a') :
    Follows (Wanted (·.all Node.byName) verbose first) NodesAlike
      (readSequence verbose first (.node a :: es) n)
      (readSequence verbose false (.node a' :: es') m) := by
  obtain ⟨rfl, counted⟩ := same
  apply below.sequence verbose first
  apply alike.cons (e := .node a)
  simpa [Element.counted, Element.nodes] using counted

/-- A group in a sequence. Switches for the whole pattern are not wanted. -/
theorem sequence_group (verbose first : Bool) (place place' : Nat) {es es' : List Element}
    (alike : ElementsAlike es es') :
    Follows (Wanted (·.all Node.byName) verbose first) NodesAlike
      (do
        match ← readGroup verbose place n with
        | .element e => readSequence verbose first (e :: es) n
        | .nothing => readSequence verbose first es n
        | .flags =>
          if !first || !es.isEmpty then failAt .lateFlags place
          else readSequence (← get).flags.verbose first es n)
      (do
        match ← readGroup verbose place' m with
        | .element e => readSequence verbose false (e :: es') m
        | .nothing => readSequence verbose false es' m
        | .flags =>
          if !false || !es'.isEmpty then failAt .lateFlags place'
          else readSequence (← get).flags.verbose false es' m) := by
  constructor
  intro σ τ inside
  apply ((below.group verbose _ _).each inside).bind
  · intro r r' ρ ρ' read same inside
    cases same with
    | element counted => exact (below.sequence verbose first (alike.cons counted)).each inside
    | nothing => exact (below.sequence verbose first alike).each inside
    | flags =>
      constructor
      intro ns σ' done want
      dsimp only at done
      split at done
      · cases done
      · rename_i front
        obtain ⟨_, _, ⟨⟩, later⟩ := run_bind_eq_ok.1 done
        have top : first = true := by
          cases first with
          | false => exact absurd rfl front
          | true => rfl
        have plain := ((readsWith n).sequence _ first es).grows later (want.plain top)
        exact absurd plain (readGroup_flags read)
  · intro r ρ ns σ' _ done want
    cases r with
    | element e => exact byName_of_cons done want.byName
    | nothing => rfl
    | flags => rfl

theorem sequence_succ (verbose first : Bool) {es es' : List Element}
    (alike : ElementsAlike es es') :
    Follows (Wanted (·.all Node.byName) verbose first) NodesAlike
      (readSequence verbose first es (n + 1)) (readSequence verbose false es' (m + 1)) := by
  rw [readSequence, readSequence]
  apply follows_next?_bind
  · exact follows_pure alike.nodes
  intro σ τ this inside next
  dsimp only
  by_cases among : this.isAmong ['|', ')'] = true
  · rw [if_pos among, if_pos among]
    exact (follows_pure alike.nodes).each inside
  rw [if_neg among, if_neg among]
  apply (advance_follows inside (by simp [next])).bind _ fun _ _ _ => trivial
  intro _ _ ρ ρ' step _ inside
  refine (follows_here.andThen fun place place' _ => ?_).each inside
  apply follows_ite .rfl (fun _ => below.sequence verbose first alike)
  intro _
  apply follows_ite .rfl
  · intro _
    apply (follows_skipComment '\n').bind
    · exact fun _ _ _ => below.sequence verbose first alike
    · intro there ρ ns σ' done want
      right
      cases ended : ρ.next with
      | none =>
        have more := want.goesOn (Bool.and_eq_true_iff.1 ‹_›).1
        rw [readSequence_ended ended done, ended] at more
        cases more
      | some p => rfl
  intro _
  split
  · apply (follows_escape _).bind
    · exact fun _ _ same => below.sequence_node verbose first alike same
    · intro a _ ns _ done want
      simpa [Element.nodes] using byName_of_cons done want.byName
  · exact follows_readSet.andThen fun _ _ same => below.sequence_node verbose first alike same
  · exact below.sequence_node verbose first alike ⟨rfl, rfl⟩
  · exact below.sequence_node verbose first alike ⟨rfl, rfl⟩
  · exact below.sequence_node verbose first alike ⟨rfl, rfl⟩
  · exact below.sequence_group verbose first _ _ alike
  · apply (agrees_repetition? _).andThen
    intro counts
    cases counts with
    | none => exact below.sequence_node verbose first alike ⟨rfl, rfl⟩
    | some counts =>
      apply (follows_repeatLast counts alike).andThen
      exact fun _ _ alike => below.sequence verbose first alike

theorem body_bind (verbose : Bool) (start start' : Nat) (g : List Node → GroupResult)
    (alike : ∀ ns ns', NodesAlike ns ns' → GroupAlike (g ns) (g ns'))
    (byName : ∀ ns, (g ns).byName = true → ns.all Node.byName = true) :
    Follows (fun r _ => r.byName = true) GroupAlike
      (readBody verbose start n >>= fun ns => pure (g ns))
      (readBody verbose start' m >>= fun ns => pure (g ns)) := by
  apply (below.body verbose start start').bind
  · exact fun ns ns' same => follows_pure (alike ns ns' same)
  · intro ns _ r _ done want
    cases done
    exact byName ns want

/-- The rest of a condition, after its mark. -/
theorem condition_bind (verbose : Bool) (start start' : Nat) :
    Follows (fun r _ => r.byName = true) GroupAlike
      (do
        let (index, named) ← readCondition
        let yes ← readSequence verbose false [] n
        let no ← readOtherwise (readSequence verbose false [] n)
        closeParen start
        return .element (.node (.condition index named (seqOf yes) (seqOf no))))
      (do
        let (index, named) ← readCondition
        let yes ← readSequence verbose false [] m
        let no ← readOtherwise (readSequence verbose false [] m)
        closeParen start'
        return .element (.node (.condition index named (seqOf yes) (seqOf no)))) := by
  have branch : Follows
      (fun ns σ' => ns.all Node.byName = true ∧ σ'.next.isSome = true) NodesAlike
      (readSequence verbose false [] n) (readSequence verbose false [] m) :=
    (below.sequence verbose false ⟨rfl, rfl⟩).mono fun _ _ want =>
      ⟨want.1, fun _ => want.2, plain_below⟩
  have parts {r : Nat × Bool} {yes no : List Node} (byName : (GroupResult.element (.node
      (.condition r.1 r.2 (seqOf yes) (seqOf no)))).byName = true) :
      (r.2 = true ∧ yes.all Node.byName = true) ∧ no.all Node.byName = true := by
    simpa [GroupResult.byName, Element.nodes, Node.byName] using byName
  apply follows_readCondition.bind
  · intro r r' same
    apply branch.bind
    · intro yes yes' alikeYes
      apply (follows_readOtherwise branch).bind
      · intro no no' alikeNo
        apply (agrees_closeParen start start').andThen
        intro _
        apply follows_pure
        rw [same.2]
        exact (alikeYes.seqOf.condition r.2 same.1 alikeNo.seqOf).element
      · intro no ρ b _ done want
        obtain ⟨_, _, closing, ⟨⟩⟩ := run_bind_eq_ok.1 done
        exact ⟨(parts want).2, closeParen_next closing⟩
    · intro yes ρ b _ done want
      obtain ⟨no, _, other, done⟩ := run_bind_eq_ok.1 done
      obtain ⟨_, _, closing, ⟨⟩⟩ := run_bind_eq_ok.1 done
      exact ⟨(parts want).1.2, readOtherwise_next other (closeParen_next closing)⟩
  · intro r ρ b _ done want
    obtain ⟨yes, _, -, done⟩ := run_bind_eq_ok.1 done
    obtain ⟨no, _, -, done⟩ := run_bind_eq_ok.1 done
    obtain ⟨_, _, -, ⟨⟩⟩ := run_bind_eq_ok.1 done
    exact (parts want).1.1

theorem group_succ (verbose : Bool) (start start' : Nat) :
    Follows (fun r _ => r.byName = true) GroupAlike (readGroup verbose start (n + 1))
      (readGroup verbose start' (m + 1)) := by
  rw [readGroup, readGroup]
  apply (agrees_accept (by decide)).andThen
  intro extended
  apply follows_ite .rfl (fun _ => below.numbered verbose start start' none)
  intro _
  apply follows_take?_bind fun _ => ⟨_, rfl⟩
  intro p
  dsimp only
  split
  · apply (agrees_accept (by decide)).andThen
    intro angle
    apply follows_ite .rfl
    · intro _
      apply (agrees_takeName ..).andThen
      intro name
      apply (agrees_checkName name).andThen
      intro _
      exact below.numbered verbose start start' (some name)
    · intro _
      apply (agrees_accept (by decide)).andThen
      intro again
      apply follows_ite .rfl
      · intro _
        apply follows_namedReference.andThen
        exact fun _ _ alike => follows_pure alike.element
      · intro _
        apply follows_take?_bind fun _ => ⟨_, rfl⟩
        exact fun q => follows_failBefore ..
  · apply below.body_bind verbose start start' fun ns => .element (.bundle ns)
    · exact fun ns ns' alike => alike.1 ▸ GroupAlike.element (e := .bundle ns) alike.2
    · exact fun ns byName => byName
  · apply (follows_skipComment ')').bind
    · intro there _ same
      cases same
      exact follows_ite .rfl (fun _ => follows_pure .nothing) fun _ => follows_failAt ..
    · intro there _ _ _ done _
      cases there with
      | true => exact .inl rfl
      | false => cases done
  · exact below.look verbose start start' true false
  · exact below.look verbose start start' true true
  · apply follows_take?_bind fun _ => ⟨_, rfl⟩
    intro q
    apply follows_ite .rfl (fun _ => follows_failBefore ..)
    exact fun _ => below.look verbose start start' false _
  · exact below.condition_bind verbose start start'
  · apply below.body_bind verbose start start' fun ns => .element (.node (.atomic (seqOf ns)))
    · exact fun ns ns' alike => alike.seqOf.atomic.element
    · intro ns byName
      simpa [GroupResult.byName, Element.nodes, Node.byName] using byName
  · apply follows_ite .rfl (fun _ => follows_failBefore ..)
    intro _
    apply (agrees_readFlags _).andThen
    intro r
    cases r with
    | none => exact follows_pure .flags
    | some r =>
      apply below.body_bind _ start start'
        fun ns => .element (.node (.scoped r.1 r.2 (seqOf ns)))
      · exact fun ns ns' alike => (alike.seqOf.scoped r.1 r.2).element
      · intro ns byName
        simpa [GroupResult.byName, Element.nodes, Node.byName] using byName

end FollowsWith

theorem followsWith {n m : Nat} (le : n ≤ m) : FollowsWith n m := by
  induction n generalizing m with
  | zero =>
    constructor
    · exact fun _ _ _ _ => follows_failBefore ..
    · exact fun _ _ _ _ _ => follows_failBefore ..
    · exact fun _ _ _ => follows_failBefore ..
    · exact fun _ _ _ _ => follows_failBefore ..
    · exact fun _ _ _ => follows_failBefore ..
    · exact fun _ _ _ _ _ => follows_failBefore ..
  | succ n ih =>
    obtain ⟨m, rfl⟩ := Nat.exists_eq_add_of_lt le
    have below : FollowsWith n (n + m) := ih (Nat.le_add_right n m)
    exact ⟨below.branches_succ, below.sequence_succ, below.body_succ, below.numbered_succ,
      below.group_succ, below.look_succ⟩

end Storyworld.Pattern
