import Storyworld.Pattern.Match

/-!
A pattern all of whose groups are counted one further. Lengths, defects and matches are the same, as
long as groups are counted from one on.
-/

namespace Storyworld.Pattern

namespace Node

/-- All groups one further, and what refers to them too. -/
def shifted : Node → Node
  | .seq a b => .seq a.shifted b.shifted
  | .alt a b => .alt a.shifted b.shifted
  | .rep greed least most body => .rep greed least most body.shifted
  | .group index body => .group (index + 1) body.shifted
  | .scoped on off body => .scoped on off body.shifted
  | .atomic body => .atomic body.shifted
  | .look ahead negated body => .look ahead negated body.shifted
  | .backref index named => .backref (index + 1) named
  | .condition index named yes no => .condition (index + 1) named yes.shifted no.shifted
  | n => n

/-- No group has the number zero. -/
def counted : Node → Bool
  | .seq a b | .alt a b => a.counted && b.counted
  | .group index body => 0 < index && body.counted
  | .rep _ _ _ body | .scoped _ _ body | .atomic body | .look _ _ body => body.counted
  | .backref index _ => 0 < index
  | .condition index _ yes no => 0 < index && yes.counted && no.counted
  | _ => true

/-- Whatever refers to a group tells it by its name. -/
def byName : Node → Bool
  | .seq a b | .alt a b => a.byName && b.byName
  | .rep _ _ _ body | .group _ body | .scoped _ _ body | .atomic body | .look _ _ body =>
    body.byName
  | .backref _ named => named
  | .condition _ named yes no => named && yes.byName && no.byName
  | _ => true

end Node

variable {ns : List Node}

@[simp] theorem shifted_seqOf (ns : List Node) :
    (seqOf ns).shifted = seqOf (ns.map Node.shifted) := by
  induction ns with
  | nil => rfl
  | cons n rest ih =>
    cases rest with
    | nil => rfl
    | cons m rest =>
      simp only [seqOf, Node.shifted, List.map_cons] at ih ⊢
      rw [ih]

@[simp] theorem shifted_altOf (ns : List Node) :
    (altOf ns).shifted = altOf (ns.map Node.shifted) := by
  induction ns with
  | nil => rfl
  | cons n rest ih =>
    cases rest with
    | nil => rfl
    | cons m rest =>
      simp only [altOf, Node.shifted, List.map_cons] at ih ⊢
      rw [ih]

theorem singleParts?_shifted (ns : List Node) :
    singleParts? (ns.map Node.shifted) = singleParts? ns := by
  cases ns with
  | nil => rfl
  | cons n rest =>
    cases rest with
    | nil => cases n <;> rfl
    | cons m rest => simp [singleParts?]

theorem mapM_singleParts_shifted (branches : List (List Node)) :
    (branches.map (List.map Node.shifted)).mapM singleParts? = branches.mapM singleParts? := by
  induction branches with
  | nil => rfl
  | cons ns rest ih => rw [List.map_cons, List.mapM_cons, List.mapM_cons, singleParts?_shifted, ih]

theorem joinSeveral_shifted (branches : List (List Node)) :
    joinSeveral (branches.map (List.map Node.shifted)) = (joinSeveral branches).shifted := by
  unfold joinSeveral
  rw [mapM_singleParts_shifted]
  split
  · rfl
  · rw [shifted_altOf, List.map_map, List.map_map]
    congr 2
    funext ns
    exact (shifted_seqOf ns).symm

theorem joinBranches_shifted (branches : List (List Node)) :
    joinBranches (branches.map (List.map Node.shifted)) =
      (joinBranches branches).map Node.shifted := by
  cases branches with
  | nil => exact congrArg (fun n => [n]) (joinSeveral_shifted [])
  | cons ns rest =>
    cases rest with
    | nil => rfl
    | cons ms rest => exact congrArg (fun n => [n]) (joinSeveral_shifted (ns :: ms :: rest))

/-- A test that sequences and alternatives pass if their parts do, and single characters always. -/
structure Pervades (holds : Node → Bool) : Prop where
  empty : holds .empty = true
  char (n : Nat) (negated : Bool) : holds (.char n negated) = true
  set (negated : Bool) (parts : List ClassPart) : holds (.set negated parts) = true
  seq (a b : Node) : holds (.seq a b) = (holds a && holds b)
  alt (a b : Node) : holds (.alt a b) = (holds a && holds b)

theorem counted_pervades : Pervades Node.counted :=
  ⟨rfl, fun _ _ => rfl, fun _ _ => rfl, fun _ _ => rfl, fun _ _ => rfl⟩

theorem byName_pervades : Pervades Node.byName :=
  ⟨rfl, fun _ _ => rfl, fun _ _ => rfl, fun _ _ => rfl, fun _ _ => rfl⟩

namespace Pervades

variable {holds : Node → Bool} (pervades : Pervades holds)

include pervades

theorem seqOf (ns : List Node) : holds (seqOf ns) = ns.all holds := by
  induction ns with
  | nil => exact pervades.empty
  | cons n rest ih =>
    cases rest with
    | nil => simp [Pattern.seqOf]
    | cons m rest =>
      rw [List.all_cons, ← ih]
      exact pervades.seq n _

theorem altOf (ns : List Node) : holds (altOf ns) = ns.all holds := by
  induction ns with
  | nil => exact pervades.empty
  | cons n rest ih =>
    cases rest with
    | nil => simp [Pattern.altOf]
    | cons m rest =>
      rw [List.all_cons, ← ih]
      exact pervades.alt n _

theorem of_singleParts {branches : List (List Node)} {parts : List (List ClassPart)}
    (h : branches.mapM singleParts? = some parts) : branches.all (·.all holds) = true := by
  induction branches generalizing parts with
  | nil => rfl
  | cons ns rest ih =>
    rw [List.mapM_cons] at h
    obtain ⟨first, here, h⟩ := Option.bind_eq_some_iff.1 h
    obtain ⟨others, later, -⟩ := Option.bind_eq_some_iff.1 h
    rw [List.all_cons, ih later, Bool.and_true]
    unfold singleParts? at here
    split at here
    · simp [pervades.char]
    · simp [pervades.set]
    · cases here

theorem joinSeveral (branches : List (List Node)) :
    holds (joinSeveral branches) = branches.all (·.all holds) := by
  unfold Pattern.joinSeveral
  cases h : branches.mapM singleParts? with
  | some parts =>
    rw [pervades.of_singleParts h]
    exact pervades.set false _
  | none => simp [pervades.altOf, pervades.seqOf, Function.comp_def]

theorem joinBranches (branches : List (List Node)) :
    (joinBranches branches).all holds = branches.all (·.all holds) := by
  cases branches with
  | nil => simpa [Pattern.joinBranches] using pervades.joinSeveral []
  | cons ns rest =>
    cases rest with
    | nil => simp [Pattern.joinBranches]
    | cons ms rest => simpa [Pattern.joinBranches] using pervades.joinSeveral (ns :: ms :: rest)

end Pervades

@[simp] theorem counted_seqOf (ns : List Node) : (seqOf ns).counted = ns.all Node.counted :=
  counted_pervades.seqOf ns

@[simp] theorem byName_seqOf (ns : List Node) : (seqOf ns).byName = ns.all Node.byName :=
  byName_pervades.seqOf ns

/-! Lengths and defects -/

/-- The lengths of groups where the first one is new. -/
def Beside (groups groups' : Nat → Width) : Prop :=
  ∀ i, 0 < i → groups' (i + 1) = groups i

theorem widthOf_beside (widths : List (Option Width)) (w : Option Width) :
    Beside (widthOf widths) (widthOf (w :: widths)) := by
  intro i positive
  cases i with
  | zero => cases positive
  | succ i => rfl

theorem width_shifted {groups groups' : Nat → Width} (same : Beside groups groups') {n : Node}
    (counted : n.counted = true) : n.shifted.width groups' = n.width groups := by
  induction n with
  | backref i named => exact same i (by simpa [Node.counted] using counted)
  | _ => simp_all [Node.shifted, Node.width, Node.counted]

theorem defect_shifted {groups groups' : Nat → Width} (same : Beside groups groups') {n : Node}
    (counted : n.counted = true) (template : Bool) :
    n.shifted.defect? template groups' = n.defect? template groups := by
  induction n with
  | look ahead negated body ih =>
    have inner : body.counted = true := counted
    simp only [Node.shifted, Node.defect?, width_shifted same inner, ih inner]
  | rep greed least most body ih =>
    have inner : body.counted = true := counted
    simp only [Node.shifted, Node.defect?, ih inner]
  | _ => simp_all [Node.shifted, Node.defect?, Node.counted]

/-! Matches -/

/-- Marks of the same groups, counted one further. -/
def Marks.Beside (m m' : Marks) : Prop :=
  ∀ i, 0 < i → m'.starts.lookup (i + 1) = m.starts.lookup i ∧
    m'.ends.lookup (i + 1) = m.ends.lookup i

namespace Marks.Beside

theorem cons {es es' : List (Nat × Nat)} {j : Nat} (same : es'.lookup (j + 1) = es.lookup j)
    (i place : Nat) :
    List.lookup (j + 1) ((i + 1, place) :: es') = List.lookup j ((i, place) :: es) := by
  by_cases h : j = i
  · simp [h]
  · simp [List.lookup_cons, same]


variable {m m' : Marks} (beside : m.Beside m')

include beside

theorem enter (i place : Nat) : (m.enter i place).Beside (m'.enter (i + 1) place) := by
  intro j positive
  exact ⟨cons (beside j positive).1 i place, (beside j positive).2⟩

theorem leave (i place : Nat) : (m.leave i place).Beside (m'.leave (i + 1) place) := by
  intro j positive
  exact ⟨(beside j positive).1, cons (beside j positive).2 i place⟩

theorem span {i : Nat} (positive : 0 < i) : m'.span? (i + 1) = m.span? i := by
  unfold Marks.span?
  rw [(beside i positive).1, (beside i positive).2]

end Marks.Beside

/-- Both fail, or both end at the same place. -/
inductive Found.Beside : Found → Found → Prop where
  | none : Found.Beside none none
  | some {place : Nat} {m m' : Marks} (marks : m.Beside m') :
    Found.Beside (some (place, m)) (some (place, m'))

def Rest.Beside (k k' : Rest) : Prop :=
  ∀ place m m', Marks.Beside m m' → Found.Beside (k place m) (k' place m')

def Matcher.Beside (a a' : Matcher) : Prop :=
  ∀ k k', Rest.Beside k k' → Rest.Beside (a · · k) (a' · · k')

theorem orElse_beside {a a' : Found} {b b' : Unit → Found} (first : Found.Beside a a')
    (second : Found.Beside (b ()) (b' ())) : Found.Beside (orElse a b) (orElse a' b') := by
  cases first with
  | none => exact second
  | some marks => exact .some marks

/-- A way that was found is handed on. -/
theorem match_beside {r r' : Found} {k k' : Rest} {lost lost' : Found} :
    Found.Beside r r' → Rest.Beside k k' → Found.Beside lost lost' →
      Found.Beside (match r with | some (p, m) => k p m | none => lost)
        (match r' with | some (p, m) => k' p m | none => lost') := by
  intro first found failed
  cases first with
  | none => exact failed
  | some marks => exact found _ _ _ marks

theorem rest_some : Rest.Beside (fun p m => some (p, m)) (fun p m => some (p, m)) :=
  fun _ _ _ marks => .some marks

theorem oneChar_beside (text : Array Char) (holds : Char → Bool) :
    Matcher.Beside (oneChar text holds) (oneChar text holds) := by
  intro k k' rest place m m' marks
  unfold oneChar
  dsimp only
  split
  · split
    · exact rest _ _ _ marks
    · exact .none
  · exact .none

section

variable {body body' : Matcher} (within : Matcher.Beside body body') (least : Nat)
  (most : Option Nat)

include within

theorem repeatGreedy_beside {k k' : Rest} (rest : Rest.Beside k k') (fuel : Nat) :
    ∀ count last, Rest.Beside (repeatGreedy body least most k fuel count last)
      (repeatGreedy body' least most k' fuel count last) := by
  induction fuel with
  | zero => exact fun _ _ _ _ _ _ => .none
  | succ fuel ih =>
    intro count last place m m' marks
    unfold repeatGreedy
    split
    · exact within _ _ (ih _ _) _ _ _ marks
    · split
      · exact orElse_beside (within _ _ (ih _ _) _ _ _ marks) (rest _ _ _ marks)
      · exact rest _ _ _ marks

theorem repeatLazy_beside {k k' : Rest} (rest : Rest.Beside k k') (fuel : Nat) :
    ∀ count last, Rest.Beside (repeatLazy body least most k fuel count last)
      (repeatLazy body' least most k' fuel count last) := by
  induction fuel with
  | zero => exact fun _ _ _ _ _ _ => .none
  | succ fuel ih =>
    intro count last place m m' marks
    unfold repeatLazy
    split
    · exact within _ _ (ih _ _) _ _ _ marks
    · apply orElse_beside (rest _ _ _ marks)
      split
      · exact within _ _ (ih _ _) _ _ _ marks
      · exact .none

theorem repeatPossessive_beside (fuel : Nat) :
    ∀ count, Rest.Beside (repeatPossessive body least most fuel count)
      (repeatPossessive body' least most fuel count) := by
  induction fuel with
  | zero => exact fun _ _ _ _ marks => .some marks
  | succ fuel ih =>
    intro count place m m' marks
    unfold repeatPossessive
    split
    · apply match_beside (within _ _ rest_some _ _ _ marks)
      · intro p m m' marks
        dsimp only
        split
        · exact ih _ _ _ _ marks
        · exact .some marks
      · split
        · exact .none
        · exact .some marks
    · exact .some marks

theorem repeatNode_beside (greed : Greed) (size : Nat) :
    Matcher.Beside (repeatNode greed least most body size)
      (repeatNode greed least most body' size) := by
  intro k k' rest place m m' marks
  cases greed with
  | greedy => exact repeatGreedy_beside within least most rest _ _ _ _ _ _ marks
  | lazy => exact repeatLazy_beside within least most rest _ _ _ _ _ _ marks
  | possessive =>
    have once :=
      repeatPossessive_beside within least most (least + (size - place) + 2) 0 place m m' marks
    exact match_beside once rest .none

end

theorem matchAgain_beside (f : Flags) (text : Array Char) {i : Nat} (positive : 0 < i) :
    Matcher.Beside (matchAgain f text i) (matchAgain f text (i + 1)) := by
  intro k k' rest place m m' marks
  unfold matchAgain
  dsimp only
  rw [marks.span positive]
  split
  · split
    · exact rest _ _ _ marks
    · exact .none
  · exact .none

theorem lookAt_beside {body body' : Matcher} (within : Matcher.Beside body body')
    (start : Option Nat) (negated : Bool) :
    Matcher.Beside (lookAt body start negated) (lookAt body' start negated) := by
  intro k k' rest place m m' marks
  cases start with
  | none =>
    unfold lookAt
    dsimp only [Option.bind_none]
    split
    · exact rest _ _ _ marks
    · exact .none
  | some s =>
    unfold lookAt
    dsimp only [Option.bind_some]
    apply match_beside (within _ _ rest_some s _ _ marks)
    · intro _ m m' marks
      dsimp only
      split
      · exact .none
      · exact rest _ _ _ marks
    · split
      · exact rest _ _ _ marks
      · exact .none

/-- A pattern and its shifted form match alike from marks that are beside each other. -/
theorem run_shifted (text : Array Char) {groups groups' : Nat → Width}
    (same : Beside groups groups') {n : Node} (counted : n.counted = true) (f : Flags) :
    Matcher.Beside (n.run text groups f) (n.shifted.run text groups' f) := by
  induction n generalizing f with
  | empty => exact fun _ _ rest => rest
  | char n negated => exact oneChar_beside text _
  | any => exact oneChar_beside text _
  | set negated parts => exact oneChar_beside text _
  | anchor a =>
    intro k k' rest place m m' marks
    simp only [Node.shifted, Node.run]
    split
    · exact rest _ _ _ marks
    · exact .none
  | seq a b iha ihb =>
    simp only [Node.counted, Bool.and_eq_true] at counted
    intro k k' rest
    exact iha counted.1 f _ _ (ihb counted.2 f _ _ rest)
  | alt a b iha ihb =>
    simp only [Node.counted, Bool.and_eq_true] at counted
    intro k k' rest place m m' marks
    simp only [Node.shifted, Node.run]
    apply orElse_beside
    · exact iha counted.1 f _ _ rest _ _ _ marks
    · exact ihb counted.2 f _ _ rest _ _ _ marks
  | rep greed least most body ih =>
    exact repeatNode_beside (ih counted f) least most greed text.size
  | group i body ih =>
    simp only [Node.counted, Bool.and_eq_true] at counted
    intro k k' rest place m m' marks
    apply ih counted.2 f _ _ _ _ _ _ (marks.enter i place)
    intro p m m' marks
    exact rest _ _ _ (marks.leave i p)
  | «scoped» on off body ih => exact ih counted (f.within on off)
  | atomic body ih =>
    intro k k' rest place m m' marks
    exact match_beside (ih counted f _ _ rest_some _ _ _ marks) rest .none
  | look ahead negated body ih =>
    have inner : body.counted = true := counted
    intro k k' rest place m m' marks
    simp only [Node.shifted, Node.run, width_shifted same inner]
    exact lookAt_beside (ih inner f) _ negated _ _ rest _ _ _ marks
  | backref i named => exact matchAgain_beside f text (by simpa [Node.counted] using counted)
  | condition i named yes no ihy ihn =>
    simp only [Node.counted, Bool.and_eq_true, decide_eq_true_eq] at counted
    intro k k' rest place m m' marks
    simp only [Node.shifted, Node.run, marks.span counted.1.1]
    split
    · exact ihy counted.1.2 f _ _ rest _ _ _ marks
    · exact ihn counted.2 f _ _ rest _ _ _ marks

/-! One group around the whole -/

namespace Marks.Beside

variable {m m' : Marks} (beside : m.Beside m')

include beside

theorem enter_first (place : Nat) : m.Beside (m'.enter 1 place) := by
  intro i positive
  have other : (i + 1 == 1) = false := by
    rw [beq_eq_false_iff_ne]
    omega
  refine ⟨?_, (beside i positive).2⟩
  simp only [Marks.enter, List.lookup_cons, other]
  exact (beside i positive).1

theorem leave_first (place : Nat) : m.Beside (m'.leave 1 place) := by
  intro i positive
  have other : (i + 1 == 1) = false := by
    rw [beq_eq_false_iff_ne]
    omega
  refine ⟨(beside i positive).1, ?_⟩
  simp only [Marks.leave, List.lookup_cons, other]
  exact (beside i positive).2

end Marks.Beside

theorem Found.Beside.isSome {r r' : Found} (h : Found.Beside r r') : r'.isSome = r.isSome := by
  cases h with
  | none => rfl
  | some _ => rfl

/-- A pattern inside of one more group, the first of all. -/
def Parsed.wrapped (q : Parsed) : Parsed :=
  ⟨.group 1 q.node.shifted, q.flags,
    some (q.node.width (widthOf q.widths)) :: q.widths⟩

theorem matchesAll_wrapped {q : Parsed} (counted : q.node.counted = true) (text : List Char) :
    q.wrapped.matchesAll text = q.matchesAll text := by
  apply Found.Beside.isSome
  have start : Marks.nothing.Beside (Marks.nothing.enter 1 0) :=
    Marks.Beside.enter_first (fun _ _ => ⟨rfl, rfl⟩) 0
  apply run_shifted text.toArray (widthOf_beside q.widths _) counted _ _ _ _ _ _ _ start
  intro place m m' marks
  dsimp only
  split
  · exact .some (marks.leave_first place)
  · exact .none

end Storyworld.Pattern
