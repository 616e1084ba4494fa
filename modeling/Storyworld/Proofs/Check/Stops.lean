import Storyworld.Check.Document
import Storyworld.Proofs.Check.Clean
import Storyworld.Proofs.Condition.Parsing
import Storyworld.Proofs.Condition.Wording
import Storyworld.Proofs.Decimal.Bounds

/-!
Where the check of a document stops. Only four kinds of values can stop it: whole numbers that no
floating-point number can stand for, conditions, patterns, and values that a message would have to
show. The first such value on the way through the document decides with which fault.
-/

namespace Storyworld.Check

open Condition

/-- A value that the check comes to and that may stop it. -/
inductive Spot where
  /-- A bound of a track or the cap of an effect. -/
  | number (v : Value)
  | condition (v : Value)
  | pattern (v : Value)
  /-- The value of an action to add, to set or to move a track. -/
  | change (v : Value)

inductive Spot.Stops : Spot → Fault → Prop where
  | number {i : Int} (large : Decimal.floatBound ≤ i.natAbs) :
      Stops (.number (.int i)) .wholeTooLarge
  | condition {s : String} {ts : List Token} (cut : tokenize s.toList = .ok ts)
      (met : Part.expression.Meets ts) : Stops (.condition (.text s)) .tooManyDigits
  | pattern {s : String} {f : Fault} (fault : Pattern.compile s.toList = .error (.fault f)) :
      Stops (.pattern (.text s)) f
  | change {v : Value} (unwritable : v.Unwritable) : Stops (.change v) .tooManyDigits

/-- The first of the spots that stops, stops with this fault. -/
inductive FirstStop : List Spot → Fault → Prop where
  | here {spot : Spot} {rest : List Spot} {f : Fault} (stops : spot.Stops f) :
      FirstStop (spot :: rest) f
  | later {spot : Spot} {rest : List Spot} {f : Fault} (passes : ∀ g, ¬ spot.Stops g)
      (next : FirstStop rest f) : FirstStop (spot :: rest) f

/-! The spots of a document, in the order in which the check comes to them -/

/-- The spots of a value that is checked if it is there. -/
def spotsIn (es : Entries) (key : String) (spots : Value → List Spot) : List Spot :=
  if isPresent (fieldIn es key) then spots (fieldIn es key) else []

/-- The spots of a value that is checked if it is written at all. -/
def spotsWritten (es : Entries) (key : String) (spots : Value → List Spot) : List Spot :=
  match lookupLast key es with
  | some v => spots v
  | none => []

/-- The value of the only action, if it is one that is shown when it has no target. -/
def actionSpots (es : Entries) : List Spot :=
  match (es.map Prod.fst).filter fun k => !modifierKeys.contains k with
  | [key] => if key = "add" ∨ key = "set" ∨ key = "track" then [.change (fieldIn es key)] else []
  | _ => []

def effectSpots (es : Entries) : List Spot :=
  actionSpots es ++ (spotsWritten es "if" (fun v => [.condition v]) ++
    spotsWritten es "cap" fun v => [.number v])

def itemsOf : Value → List Value
  | .list vs => vs
  | _ => []

def effectsSpots (v : Value) : List Spot :=
  (itemsOf v).flatMap fun e => effectSpots (entriesOf e)

def triggerSpots (when : Entries) : List Spot :=
  spotsIn when "targetPattern" (fun v => [.pattern v]) ++
    (spotsIn when "textRegex" (fun v => [.pattern v]) ++
      spotsIn when "require" fun v => [.condition v])

def ruleSpots (v : Value) : List Spot :=
  let es := entriesOf v
  let when := entriesOf (fieldIn es "when")
  if isPresent (fieldIn when "actionId") then
    triggerSpots when ++ (spotsWritten es "do" effectsSpots ++ spotsIn es "fail" effectsSpots)
  else []

def situationSpots (v : Value) : List Spot :=
  let es := entriesOf v
  spotsIn es "auto_enter_if" (fun v => [.condition v]) ++
    (itemsOf (fieldIn es "on_action")).flatMap ruleSpots

/-- Values that a number is looked for in: whole numbers and finite ones. -/
def isNumeral : Value → Bool
  | .int _ => true
  | .float x => Decimal.isFinite x
  | _ => false

/-- The bounds of a track are looked at if all its fields are there, the greatest value after a
starting value that is a number. -/
def trackSpots (v : Value) : List Spot :=
  let es := entriesOf v
  if ["name", "value", "max"].all fun field => isPresent (fieldIn es field) then
    .number (fieldIn es "value") ::
      if isNumeral (fieldIn es "value") then [.number (fieldIn es "max")] else []
  else []

def spots (doc : Entries) : List Spot :=
  if (shape doc).isEmpty then
    (entriesOf (fieldIn doc "tracks")).flatMap (fun e => trackSpots e.2) ++
      (entriesOf (fieldIn doc "situations")).flatMap fun e => situationSpots e.2
  else []

theorem firstStop_append {as bs : List Spot} {f : Fault} :
    FirstStop (as ++ bs) f ↔ FirstStop as f ∨ (∀ g, ¬ FirstStop as g) ∧ FirstStop bs f := by
  induction as with
  | nil =>
    constructor
    · exact fun h => .inr ⟨nofun, h⟩
    · rintro (h | ⟨-, h⟩)
      · cases h
      · exact h
  | cons a as ih =>
    rw [List.cons_append]
    constructor
    · intro h
      cases h with
      | here stops => exact .inl (.here stops)
      | later passes next =>
        obtain first | ⟨none, second⟩ := ih.1 next
        · exact .inl (.later passes first)
        · refine .inr ⟨fun g h => ?_, second⟩
          cases h with
          | here stops => exact passes g stops
          | later _ next => exact none g next
    · rintro (h | ⟨none, second⟩)
      · cases h with
        | here stops => exact .here stops
        | later passes next => exact .later passes (ih.2 (.inl next))
      · refine .later (fun g stops => none g (.here stops)) (ih.2 (.inr ⟨fun g next => ?_, second⟩))
        exact none g (.later (fun g stops => none g (.here stops)) next)

theorem firstStop_single {spot : Spot} {f : Fault} : FirstStop [spot] f ↔ spot.Stops f := by
  constructor
  · intro h
    cases h with
    | here stops => exact stops
    | later _ next => cases next
  · exact .here

/-- There is no first spot that stops exactly if no spot stops. -/
theorem no_firstStop {spots : List Spot} :
    (∀ f, ¬ FirstStop spots f) ↔ ∀ spot ∈ spots, ∀ f, ¬ spot.Stops f := by
  induction spots with
  | nil => exact ⟨fun _ => nofun, fun _ => nofun⟩
  | cons spot rest ih =>
    constructor
    · intro none
      have passes : ∀ g, ¬ spot.Stops g := fun g stops => none g (.here stops)
      have others := ih.1 fun f next => none f (.later passes next)
      exact List.forall_mem_cons.2 ⟨passes, others⟩
    · intro each f h
      obtain ⟨passes, others⟩ := List.forall_mem_cons.1 each
      cases h with
      | here stops => exact passes f stops
      | later _ next => exact ih.2 others f next

/-- A check that stops exactly at the first of some spots. -/
def Walks (check : Issues) (spots : List Spot) : Prop :=
  ∀ f, check = .error f ↔ FirstStop spots f

theorem Walks.exists_ok {check : Issues} {spots : List Spot} (h : Walks check spots) :
    (∃ issues, check = .ok issues) ↔ ∀ f, ¬ FirstStop spots f := by
  simp only [← h _]
  cases check <;> simp

theorem walks_ok (issues : List Issue) : Walks (.ok issues) [] := by
  intro f
  constructor
  · intro h
    cases h
  · intro h
    cases h

theorem walks_all {checks : List Issues} {lists : List (List Spot)}
    (each : List.Forall₂ Walks checks lists) : Walks (all checks) lists.flatten := by
  intro f
  rw [all, map_eq_error]
  induction each with
  | nil =>
    constructor
    · intro h
      cases h
    · intro h
      cases h
  | @cons check spots checks lists first _ ih =>
    rw [List.mapM_cons, bind_eq_error, List.flatten_cons, firstStop_append]
    refine or_congr (first f) ?_
    rw [← first.exists_ok, ← ih]
    constructor
    · rintro ⟨issues, done, later⟩
      exact ⟨⟨issues, done⟩, bind_pure_eq_error.1 later⟩
    · rintro ⟨⟨issues, done⟩, later⟩
      exact ⟨issues, done, bind_pure_eq_error.2 later⟩

theorem walks_map {α : Type} {check : α → Issues} {spots : α → List Spot}
    (each : ∀ a, Walks (check a) (spots a)) (as : List α) :
    Walks (all (as.map check)) (as.flatMap spots) := by
  refine walks_all ?_
  induction as with
  | nil => exact .nil
  | cons a as ih => exact .cons (each a) ih

variable {names : Names} {path label : String}

theorem condition_walks (v : Value) : Walks (condition label path v) [.condition v] := by
  intro f
  rw [firstStop_single]
  cases v with
  | text s =>
    have parsing : condition label path (.text s) = .error f ↔ parse s = .error (.fault f) := by
      rw [condition]
      split <;> simp_all
    rw [parsing, parse_eq_fault]
    constructor
    · rintro ⟨rfl, ts, cut, met⟩
      exact .condition cut met
    · intro stops
      cases stops with
      | condition cut met => exact ⟨rfl, _, cut, met⟩
  | _ =>
    constructor
    · intro h
      cases h
    · intro stops
      cases stops

theorem pattern_walks (v : Value) : Walks (pattern label path v) [.pattern v] := by
  intro f
  rw [firstStop_single]
  cases v with
  | text s =>
    have compiling : pattern label path (.text s) = .error f ↔
        Pattern.compile s.toList = .error (.fault f) := by
      rw [pattern]
      split <;> simp_all
    rw [compiling]
    constructor
    · exact .pattern
    · intro stops
      cases stops with
      | pattern fault => exact fault
  | _ =>
    constructor
    · intro h
      cases h
    · intro stops
      cases stops

theorem isNumber_eq_error {v : Value} {f : Fault} :
    isNumber v = .error f ↔ (Spot.number v).Stops f := by
  cases v with
  | int i =>
    rw [isNumber, map_eq_error, Decimal.ofWhole_eq_error_iff]
    constructor
    · rintro ⟨rfl, large⟩
      exact .number large
    · intro stops
      cases stops with
      | number large => exact ⟨rfl, large⟩
  | _ =>
    constructor
    · intro h
      cases h
    · intro stops
      cases stops

theorem isNumber_eq_ok {v : Value} {b : Bool} (h : isNumber v = .ok b) : b = isNumeral v := by
  cases v with
  | int i =>
    obtain ⟨x, -, same⟩ := map_eq_ok.1 h
    exact same.symm
  | _ =>
    cases h
    rfl

theorem cap_walks (v : Value) : Walks (cap path v) [.number v] := by
  intro f
  rw [firstStop_single, ← isNumber_eq_error]
  exact bind_pure_eq_error

theorem change_walks (key : String) (v : Value)
    (sort : key = "add" ∨ key = "set" ∨ key = "track") :
    Walks (action names path key v) [.change v] := by
  intro f
  have showing : notAChange path key v = .error f ↔ (Spot.change v).Stops f := by
    have shown : notAChange path key v = .error f ↔ v.shown = .error f := bind_pure_eq_error
    rw [shown, Value.shown_eq_error]
    constructor
    · rintro ⟨rfl, unwritable⟩
      exact .change unwritable
    · intro stops
      cases stops with
      | change unwritable => exact ⟨rfl, unwritable⟩
  have other : key ≠ "give_item" := by rintro rfl; simp at sort
  rw [firstStop_single]
  cases v with
  | text s =>
    rw [action, if_neg other, if_pos sort]
    split
    · constructor
      · intro h
        cases h
      · intro stops
        cases stops with
        | change unwritable => cases unwritable
    · exact showing
  | _ =>
    rw [action, if_neg other, if_pos sort]
    · exact showing
    · nofun

theorem action_walks (key : String) (v : Value) : Walks (action names path key v)
    (if key = "add" ∨ key = "set" ∨ key = "track" then [.change v] else []) := by
  by_cases sort : key = "add" ∨ key = "set" ∨ key = "track"
  · rw [if_pos sort]
    exact change_walks key v sort
  · rw [if_neg sort]
    unfold action
    split
    · exact walks_ok _
    · split <;> exact walks_ok _

theorem written_walks {es : Entries} {key : String} {check : Value → Issues}
    {spots : Value → List Spot} (each : ∀ v, Walks (check v) (spots v)) (missing : List Issue) :
    Walks (match lookupLast key es with | some v => check v | none => .ok missing)
      (spotsWritten es key spots) := by
  unfold spotsWritten
  cases lookupLast key es with
  | none => exact walks_ok missing
  | some v => exact each v

theorem ifPresent_walks {es : Entries} {key : String} {check : Value → Issues}
    {spots : Value → List Spot} (each : ∀ v, Walks (check v) (spots v)) :
    Walks (ifPresent es key check) (spotsIn es key spots) := by
  unfold ifPresent spotsIn
  dsimp only
  split
  · exact each _
  · exact walks_ok []

theorem actions_walks (es : Entries) : Walks
    (actions names path es ((es.map Prod.fst).filter fun k => !modifierKeys.contains k))
    (actionSpots es) := by
  unfold actionSpots
  generalize (es.map Prod.fst).filter (fun k => !modifierKeys.contains k) = keys
  cases keys with
  | nil => exact walks_ok _
  | cons key others =>
    cases others with
    | cons _ _ => exact walks_ok _
    | nil =>
      dsimp only [actions]
      split
      · exact action_walks key _
      · rename_i unknown
        have none : ¬ (key = "add" ∨ key = "set" ∨ key = "track") := by
          rintro (rfl | rfl | rfl) <;> exact unknown (by decide)
        rw [if_neg none]
        exact walks_ok _

theorem effect_walks (isLast : Bool) (v : Value) :
    Walks (effect names path isLast v) (effectSpots (entriesOf v)) := by
  cases v with
  | mapping es =>
    have parts : effectSpots es = [[], actionSpots es, [],
        spotsWritten es "if" fun v => [.condition v],
        spotsWritten es "cap" fun v => [.number v]].flatten := by simp [effectSpots]
    rw [entriesOf, parts]
    exact walks_all (.cons (walks_ok _) (.cons (actions_walks es) (.cons (walks_ok _)
      (.cons (written_walks condition_walks []) (.cons (written_walks cap_walks []) .nil)))))
  | _ => exact walks_ok _

theorem effects_walks (v : Value) : Walks (effects names path v) (effectsSpots v) := by
  cases v with
  | list vs =>
    refine walks_all ?_
    generalize 0 = i
    induction vs generalizing i with
    | nil => exact .nil
    | cons v rest ih => exact .cons (effect_walks _ v) (ih (i + 1))
  | _ => exact walks_ok _

theorem trigger_walks (es : Entries) : Walks (trigger names path es) (triggerSpots es) := by
  have parts : triggerSpots es = [[], spotsIn es "targetPattern" fun v => [.pattern v],
      spotsIn es "textRegex" fun v => [.pattern v],
      spotsIn es "require" fun v => [.condition v]].flatten := by simp [triggerSpots]
  rw [parts]
  exact walks_all (.cons (walks_ok _) (.cons (ifPresent_walks pattern_walks)
    (.cons (ifPresent_walks pattern_walks) (.cons (ifPresent_walks condition_walks) .nil))))

theorem rule_walks (v : Value) : Walks (rule names path v) (ruleSpots v) := by
  cases v with
  | mapping es =>
    have parts : ruleSpots (.mapping es) =
        if isPresent (fieldIn (entriesOf (fieldIn es "when")) "actionId") then
          [triggerSpots (entriesOf (fieldIn es "when")), spotsWritten es "do" effectsSpots,
            spotsIn es "fail" effectsSpots].flatten
        else [] := by
      simp only [ruleSpots, List.flatten_cons, List.flatten_nil, List.append_nil]
      rfl
    rw [rule, parts]
    split
    · exact walks_all (.cons (trigger_walks _) (.cons (written_walks effects_walks _)
        (.cons (ifPresent_walks effects_walks) .nil)))
    · exact walks_ok _
  | _ => exact walks_ok _

theorem situation_walks (id : String) (v : Value) :
    Walks (situation names id v) (situationSpots v) := by
  cases v with
  | mapping es =>
    have rules : Walks (match fieldIn es "on_action" with
        | .list vs => all (rulesFrom names ("situations." ++ id) 0 vs)
        | _ => .ok [anError ("situations." ++ id) ("Situation \"" ++ id ++ "\"" ++
            " needs an \"on_action\" list.")])
        ((itemsOf (fieldIn es "on_action")).flatMap ruleSpots) := by
      cases fieldIn es "on_action" with
      | list vs =>
        refine walks_all ?_
        generalize 0 = i
        induction vs generalizing i with
        | nil => exact .nil
        | cons v rest ih => exact .cons (rule_walks v) (ih (i + 1))
      | _ => exact walks_ok _
    have parts : situationSpots (.mapping es) = [[], [],
        spotsIn es "auto_enter_if" fun v => [.condition v],
        (itemsOf (fieldIn es "on_action")).flatMap ruleSpots].flatten := by
      simp [situationSpots, entriesOf]
    rw [parts]
    exact walks_all (.cons (walks_ok _) (.cons (walks_ok _)
      (.cons (ifPresent_walks condition_walks) (.cons rules .nil))))
  | _ => exact walks_ok _

/-- A check that reads something first, which may stop it. -/
theorem Walks.after {α : Type} {first : Except Fault α} {next : α → Issues} {spot : Spot}
    {rest : List Spot} (stops : ∀ f, first = .error f ↔ spot.Stops f)
    (later : ∀ a, first = .ok a → Walks (next a) rest) : Walks (first >>= next) (spot :: rest) := by
  intro f
  rw [bind_eq_error, ← List.singleton_append, firstStop_append, firstStop_single, stops]
  refine or_congr_right ?_
  simp only [firstStop_single, ← stops]
  cases first with
  | error e =>
    constructor
    · rintro ⟨a, h, -⟩
      cases h
    · rintro ⟨passes, -⟩
      exact absurd rfl (passes e)
  | ok a =>
    have rest := later a rfl f
    constructor
    · rintro ⟨b, h, failed⟩
      cases h
      exact ⟨nofun, rest.1 failed⟩
    · rintro ⟨-, stop⟩
      exact ⟨a, rfl, rest.2 stop⟩

/-- What is a number for the check can be written. -/
theorem plain_of_isNumber {v : Value} (h : isNumber v = .ok true) : ∃ s, v.plain = .ok s := by
  cases v with
  | int i =>
    obtain ⟨x, stands, -⟩ := map_eq_ok.1 h
    simp only [Value.plain, Value.shown]
    exact Decimal.writeWhole_of_ofWhole stands
  | float x => exact ⟨_, rfl⟩
  | _ => cases h

theorem trackBounds_walks (title : String) (value greatest : Value) :
    Walks (trackBounds path title value greatest)
      (.number value :: if isNumeral value then [.number greatest] else []) := by
  refine .after (fun _ => isNumber_eq_error) fun b number => ?_
  rw [← isNumber_eq_ok number]
  cases b with
  | false => exact walks_ok _
  | true =>
    refine .after (fun _ => isNumber_eq_error) fun b number' => ?_
    cases b with
    | false => exact walks_ok _
    | true =>
      obtain ⟨s, shown⟩ := plain_of_isNumber number
      obtain ⟨t, shown'⟩ := plain_of_isNumber number'
      rw [shown, shown']
      simp only [Bool.not_true, Bool.false_eq_true, if_false]
      split
      · split
        · exact walks_ok _
        · split <;> exact walks_ok _
      · exact walks_ok _

theorem missingFields_isEmpty (title : String) (es : Entries) (fields : List String) :
    (missingFields path title es fields).isEmpty =
      fields.all fun field => isPresent (fieldIn es field) := by
  induction fields with
  | nil => rfl
  | cons field rest ih =>
    rw [List.all_cons, ← ih, missingFields, List.flatMap_cons, demand]
    cases isPresent (fieldIn es field) <;> rfl

theorem track_walks (id : String) (v : Value) : Walks (track id v) (trackSpots v) := by
  cases v with
  | mapping es =>
    simp only [track, trackSpots, entriesOf, missingFields_isEmpty]
    by_cases complete : (["name", "value", "max"].all fun field =>
        isPresent (fieldIn es field)) = true
    · simp only [complete, if_true]
      exact trackBounds_walks _ _ _
    · simp only [complete]
      exact walks_ok _
  | _ => exact walks_ok _

theorem document_walks (doc : Entries) : Walks (document doc) (spots doc) := by
  unfold document spots
  by_cases shaped : (shape doc).isEmpty = true
  · have parts : ∀ as bs : List Spot, as ++ bs = [[], [], as, [], bs].flatten := by simp
    simp only [shaped, Bool.not_true, Bool.false_eq_true, if_false, if_true]
    rw [parts]
    exact walks_all (.cons (walks_ok _) (.cons (walks_ok _)
      (.cons (walks_map (fun e : String × Value => track_walks e.1 e.2) _) (.cons (walks_ok _)
        (.cons (walks_map (fun e : String × Value => situation_walks e.1 e.2) _) .nil)))))
  · simp only [shaped, Bool.not_false, Bool.false_eq_true, if_false, if_true]
    exact walks_ok _

/-- A cave that is deeper than a floating-point number can say. -/
def abyss : Entries :=
  [("id", .text "abyss"), ("title", .text "Abyss"), ("language", .text "en"),
    ("actions", .mapping []), ("initial", .mapping [("situation", .text "rim")]),
    ("tracks", .mapping [("depth", .mapping [("name", .text "Depth"), ("value", .int 0),
      ("max", .int (.ofNat (Decimal.pow10 400)))])]),
    ("situations", .mapping [("rim", .mapping [("label", .text "The rim"), ("on_action", .list []),
      ("ending", .bool true)])])]

end Storyworld.Check
