import Storyworld.CommandLine.Play
import Storyworld.Proofs.CommandLine.Shell
import Storyworld.Proofs.Session.Whole

/-!
The rounds of a game at the command line. They are quiet, so what they come to depends on the
session and the lines alone. Lines may be typed in two parts as long as the player does not leave in
the first part, and earlier states of a session matter only to a line that takes a turn back.
-/

namespace Storyworld

namespace Session

/-- The same session with other states before the last turns. -/
def withPast (past : List State) (g : Session) : Session :=
  { g with past := past }

variable {g h : Session}

theorem narrate_withPast {id : String} {request : Narration.Request} {t u : Turn}
    (told : (g.narrate id request t).result = .ok (h, u)) (past : List State) :
    ((g.withPast past).narrate id request t).result = .ok (h.withPast past, u) := by
  obtain ⟨sc, s, old, limit, teller, now⟩ := g
  unfold narrate at told ⊢
  cases teller with
  | none =>
    cases told
    rfl
  | some n =>
    dsimp only [withPast] at told ⊢
    split at told <;> cases told <;> rfl

/-- An action comes to the same whatever the earlier states are. -/
theorem act_withPast {id : String} {target : Option String} {success : Bool} {t : Turn}
    (acted : (g.act id target success).result = .ok (h, t)) (past : List State) :
    ∃ later, ((g.withPast past).act id target success).result = .ok (h.withPast later, t) := by
  obtain ⟨r, q, played, committed, told⟩ := act_eq_ok.1 acted
  have taken : (g.withPast past).commit (some (actionMessage g.scenario id target)) r =
      .ok (q.1.withPast ((g.withPast past).keep g.state), q.2) := by
    rw [commit_eq_bind] at committed ⊢
    obtain ⟨noted, entry, same⟩ := bind_eq_ok.1 committed
    cases same
    exact bind_eq_ok.2 ⟨noted, entry, rfl⟩
  exact ⟨_, act_eq_ok.2 ⟨r, _, played, taken, narrate_withPast told _⟩⟩

end Session

namespace CommandLine.Play

open Console Noting

variable {g h : Session}

theorem quiet_showPlace (g : Session) : Quiet (showPlace g) :=
  (quiet_sayAll (stateLines g)).bind fun _ => quiet_sayAll (actionLines g)

/-- The end of a turn at the command line: what it has added to the log is shown. -/
def shown (p : Session × Turn) : Console Session := do
  sayAll (p.2.entries.flatMap entryLines)
  if p.2.moved then showPlace p.1
  return p.1

theorem act_eq (g : Session) (id : String) (target : Option String) (success : Bool) :
    act g id target success =
      if (lookupLast id g.scenario.actions).isNone then do
        say ("Unknown action " ++ Text.quoted id ++ ". Type :actions for a list.")
        return g
      else Console.perform (g.act id target success) >>= shown := rfl

theorem quiet_shown (p : Session × Turn) : Quiet (shown p) := by
  refine (quiet_sayAll _).bind fun _ => ?_
  split
  · exact (quiet_showPlace p.1).bind fun _ => quiet_pure p.1
  · exact quiet_pure p.1

theorem quiet_act (g : Session) (id : String) (target : Option String) (success : Bool) :
    Quiet (act g id target success) := by
  rw [act_eq]
  split
  · exact (quiet_say _).bind fun _ => quiet_pure g
  · exact (quiet_perform (Session.steady_take g (.action id target success))).bind quiet_shown

theorem quiet_answer (g : Session) (text : String) : Quiet (answer g text) := by
  unfold answer
  split
  · exact quiet_pure none
  · exact quiet_pure (some g)
  · exact (quiet_sayAll _).bind fun _ => quiet_pure (some g)
  · exact (quiet_sayAll _).bind fun _ => quiet_pure (some g)
  · exact (quiet_say _).bind fun _ => quiet_pure _
  · exact (quiet_act ..).bind fun g => quiet_pure (some g)

theorem quiet_rounds (g : Session) (lines : List String) : Quiet (rounds g lines) := by
  induction lines generalizing g with
  | nil =>
    unfold rounds
    split
    · exact (quiet_put _).bind fun _ => quiet_pure g
    · exact quiet_pure g
  | cons line rest ih =>
    unfold rounds
    split
    · exact quiet_pure g
    · refine (quiet_put _).bind fun _ => (quiet_answer g line).bind fun next => ?_
      cases next with
      | some h => exact ih h
      | none => exact quiet_pure g

theorem shown_eq_ok {p : Session × Turn} :
    (shown p).result = .ok h ↔ (sayAll (p.2.entries.flatMap entryLines)).result = .ok () ∧
      (p.2.moved = true → (showPlace p.1).result = .ok ()) ∧ p.1 = h := by
  have place : Quiet (do
      if p.2.moved then showPlace p.1
      return p.1) := by
    split
    · exact (quiet_showPlace p.1).bind fun _ => quiet_pure p.1
    · exact quiet_pure p.1
  rw [shown, result_bind_eq_ok (quiet_sayAll _) fun _ => place]
  constructor
  · rintro ⟨_, told, ended⟩
    refine ⟨told, ?_⟩
    split at ended
    · obtain ⟨_, seen, same⟩ :=
        (result_bind_eq_ok (quiet_showPlace p.1) fun _ => quiet_pure p.1).1 ended
      cases same
      exact ⟨fun _ => seen, rfl⟩
    · rename_i still
      cases ended
      exact ⟨fun moved => absurd moved still, rfl⟩
  · rintro ⟨told, seen, rfl⟩
    refine ⟨(), told, ?_⟩
    split
    · rename_i moved
      exact (result_bind_eq_ok (quiet_showPlace p.1) fun _ => quiet_pure p.1).2
        ⟨(), seen moved, rfl⟩
    · rfl

/-- An action that the scenario does not know changes nothing, any other is a turn. -/
theorem act_eq_ok {id : String} {target : Option String} {success : Bool} :
    (act g id target success).result = .ok h ↔
      ((lookupLast id g.scenario.actions).isNone = true ∧ g = h) ∨
        ((lookupLast id g.scenario.actions).isNone = false ∧ ∃ p,
          (g.act id target success).result = .ok p ∧ (shown p).result = .ok h) := by
  have acted : Quiet (Console.perform (g.act id target success)) :=
    quiet_perform (Session.steady_take g (.action id target success))
  rw [act_eq]
  cases (lookupLast id g.scenario.actions).isNone with
  | true =>
    rw [if_pos rfl, result_bind_eq_ok (quiet_say _) fun _ => quiet_pure g]
    simp
  | false =>
    rw [if_neg Bool.false_ne_true, result_bind_eq_ok acted quiet_shown]
    simp

/-- What a line comes to. Only leaving gives no session to go on with. -/
theorem answer_eq_ok {text : String} {next : Option Session} :
    (answer g text).result = .ok next ↔
      match Line.ofText text with
      | .quit => next = none
      | .blank => next = some g
      | .actions => (sayAll (actionLines g)).result = .ok () ∧ next = some g
      | .state => (sayAll (stateLines g)).result = .ok () ∧ next = some g
      | .undo => next = some g.undo.1
      | .act id target success =>
        ∃ h, (act g id target success).result = .ok h ∧ next = some h := by
  unfold answer
  cases Line.ofText text with
  | quit => simp [eq_comm]
  | blank => simp [eq_comm]
  | actions | state =>
    dsimp only
    rw [result_bind_eq_ok (quiet_sayAll _) fun _ => quiet_pure _]
    constructor
    · rintro ⟨_, shown, same⟩
      cases same
      exact ⟨shown, rfl⟩
    · rintro ⟨shown, rfl⟩
      exact ⟨(), shown, rfl⟩
  | undo =>
    dsimp only
    rw [result_bind_eq_ok (quiet_say _) fun _ => quiet_pure _]
    constructor
    · rintro ⟨_, -, same⟩
      cases same
      rfl
    · rintro rfl
      exact ⟨(), rfl, rfl⟩
  | act id target success =>
    dsimp only
    rw [result_bind_eq_ok (quiet_act ..) fun _ => quiet_pure _]
    simp [eq_comm]

theorem rounds_ended (ended : g.isEnded = true) (lines : List String) :
    (rounds g lines).result = .ok g := by
  cases lines <;> simp [rounds, ended]

theorem rounds_nil (g : Session) : (rounds g []).result = .ok g := by
  unfold rounds
  split <;> rfl

/-- The rounds after a line, if the player stays. -/
def onwards (g : Session) (rest : List String) : Option Session → Console Session
  | some h => rounds h rest
  | none => return g

theorem quiet_onwards (g : Session) (rest : List String) (next : Option Session) :
    Quiet (onwards g rest next) := by
  cases next with
  | some h => exact quiet_rounds h rest
  | none => exact quiet_pure g

theorem rounds_cons_eq_ok {line : String} {rest : List String} (running : g.isEnded = false) :
    (rounds g (line :: rest)).result = .ok h ↔
      (∃ k, (answer g line).result = .ok (some k) ∧ (rounds k rest).result = .ok h) ∨
        ((answer g line).result = .ok none ∧ g = h) := by
  have answered (_ : Unit) := (quiet_answer g line).bind (quiet_onwards g rest)
  rw [rounds, if_neg (by simp [running])]
  refine (result_bind_eq_ok (quiet_put _) answered).trans ?_
  rw [result_bind_eq_ok (quiet_answer g line) (quiet_onwards g rest)]
  constructor
  · rintro ⟨_, -, next, answered, onward⟩
    cases next with
    | some k => exact .inl ⟨k, answered, onward⟩
    | none =>
      cases onward
      exact .inr ⟨answered, rfl⟩
  · rintro (⟨k, answered, onward⟩ | ⟨answered, rfl⟩)
    · exact ⟨(), rfl, some k, answered, onward⟩
    · exact ⟨(), rfl, none, answered, rfl⟩

/-- In a round every line leads to a session that can be saved, also one that takes a turn back. -/
theorem answer_savable {start : Session} {line : String} (whole : start.scenario.Whole)
    (silent : start.narrator = none) (savable : start.Savable g)
    (answered : (answer g line).result = .ok (some h)) : start.Savable h := by
  have comes := answer_eq_ok.1 answered
  cases kind : Line.ofText line with
  | quit =>
    rw [kind] at comes
    cases comes
  | blank =>
    rw [kind] at comes
    cases comes
    exact savable
  | actions | state =>
    rw [kind] at comes
    obtain ⟨-, same⟩ := comes
    cases same
    exact savable
  | undo =>
    rw [kind] at comes
    cases comes
    exact savable.undo
  | act id target success =>
    rw [kind] at comes
    obtain ⟨k, acted, same⟩ := comes
    cases same
    obtain ⟨-, rfl⟩ | ⟨-, p, taken, seen⟩ := act_eq_ok.1 acted
    · exact savable
    · obtain ⟨-, -, rfl⟩ := shown_eq_ok.1 seen
      exact savable.act whole silent taken

theorem rounds_savable {start : Session} {lines : List String} (whole : start.scenario.Whole)
    (silent : start.narrator = none) (savable : start.Savable g)
    (played : (rounds g lines).result = .ok h) : start.Savable h := by
  induction lines generalizing g with
  | nil =>
    cases (rounds_nil g).symm.trans played
    exact savable
  | cons line rest ih =>
    cases ended : g.isEnded with
    | true =>
      cases (rounds_ended ended _).symm.trans played
      exact savable
    | false =>
      obtain ⟨k, answered, onward⟩ | ⟨-, rfl⟩ := (rounds_cons_eq_ok ended).1 played
      · exact ih (answer_savable whole silent savable answered) onward
      · exact savable

theorem ofText_of_answer {line : String} (answered : (answer g line).result = .ok none) :
    Line.ofText line = .quit := by
  have comes := answer_eq_ok.1 answered
  cases kind : Line.ofText line with
  | quit => rfl
  | blank | undo =>
    rw [kind] at comes
    cases comes
  | actions | state =>
    rw [kind] at comes
    cases comes.2
  | act id target success =>
    rw [kind] at comes
    obtain ⟨_, -, same⟩ := comes
    cases same

/-- Lines come to the same at once and in two parts, if the player does not leave in the first. -/
theorem rounds_append {A B : List String} {k : Session}
    (stays : ∀ line ∈ A, Line.ofText line ≠ .quit) (first : (rounds g A).result = .ok h) :
    (rounds g (A ++ B)).result = .ok k ↔ (rounds h B).result = .ok k := by
  induction A generalizing g with
  | nil =>
    cases (rounds_nil g).symm.trans first
    rfl
  | cons line rest ih =>
    cases ended : g.isEnded with
    | true =>
      cases (rounds_ended ended _).symm.trans first
      rw [rounds_ended ended, rounds_ended ended]
    | false =>
      obtain ⟨next, answered, onward⟩ | ⟨left, -⟩ := (rounds_cons_eq_ok ended).1 first
      · rw [← ih (fun line mem => stays line (List.mem_cons_of_mem _ mem)) onward, List.cons_append,
          rounds_cons_eq_ok ended]
        simp [answered]
      · exact absurd (ofText_of_answer left) (stays line List.mem_cons_self)

theorem act_withPast {id : String} {target : Option String} {success : Bool}
    (acted : (act g id target success).result = .ok h) (past : List State) :
    ∃ later, (act (g.withPast past) id target success).result = .ok (h.withPast later) := by
  obtain ⟨unknown, rfl⟩ | ⟨known, p, taken, seen⟩ := act_eq_ok.1 acted
  · exact ⟨past, act_eq_ok.2 (.inl ⟨unknown, rfl⟩)⟩
  · obtain ⟨later, again⟩ := Session.act_withPast taken past
    obtain ⟨told, place, rfl⟩ := shown_eq_ok.1 seen
    exact ⟨later, act_eq_ok.2 (.inr ⟨known, _, again, shown_eq_ok.2 ⟨told, place, rfl⟩⟩)⟩

theorem answer_withPast {line : String} {next : Option Session}
    (onward : Line.ofText line ≠ .undo) (answered : (answer g line).result = .ok next)
    (past : List State) : ∃ later,
      (answer (g.withPast past) line).result = .ok (next.map (Session.withPast later)) := by
  have comes := answer_eq_ok.1 answered
  cases kind : Line.ofText line with
  | undo => exact absurd kind onward
  | quit | blank =>
    rw [kind] at comes
    cases comes
    refine ⟨past, answer_eq_ok.2 ?_⟩
    rw [kind]
    rfl
  | actions | state =>
    rw [kind] at comes
    obtain ⟨told, same⟩ := comes
    cases same
    refine ⟨past, answer_eq_ok.2 ?_⟩
    rw [kind]
    exact ⟨told, rfl⟩
  | act id target success =>
    rw [kind] at comes
    obtain ⟨h, acted, same⟩ := comes
    cases same
    obtain ⟨later, again⟩ := act_withPast acted past
    refine ⟨later, answer_eq_ok.2 ?_⟩
    rw [kind]
    exact ⟨_, again, rfl⟩

/-- Where no line takes a turn back, the earlier states of a session do not matter. -/
theorem rounds_withPast {lines : List String} (onward : ∀ line ∈ lines, Line.ofText line ≠ .undo)
    (played : (rounds g lines).result = .ok h) (past : List State) :
    ∃ later, (rounds (g.withPast past) lines).result = .ok (h.withPast later) := by
  induction lines generalizing g past with
  | nil =>
    cases (rounds_nil g).symm.trans played
    exact ⟨past, rounds_nil _⟩
  | cons line rest ih =>
    have others (line : String) (mem : line ∈ rest) := onward line (List.mem_cons_of_mem _ mem)
    cases ended : g.isEnded with
    | true =>
      have still : (g.withPast past).isEnded = true := ended
      cases (rounds_ended ended _).symm.trans played
      exact ⟨past, rounds_ended still _⟩
    | false =>
      have running : (g.withPast past).isEnded = false := ended
      obtain ⟨next, answered, later⟩ | ⟨left, rfl⟩ := (rounds_cons_eq_ok ended).1 played
      · obtain ⟨past', again⟩ := answer_withPast (onward line List.mem_cons_self) answered past
        obtain ⟨past'', last⟩ := ih others later past'
        exact ⟨past'', (rounds_cons_eq_ok running).2 (.inl ⟨_, again, last⟩)⟩
      · obtain ⟨_, again⟩ := answer_withPast (onward line List.mem_cons_self) left past
        exact ⟨past, (rounds_cons_eq_ok running).2 (.inr ⟨again, rfl⟩)⟩

end CommandLine.Play

end Storyworld
