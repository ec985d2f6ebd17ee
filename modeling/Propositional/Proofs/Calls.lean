import Mathlib.Computability.StateTransition
import Propositional.Proofs.Grammar
import Propositional.SyntaxError

set_option autoImplicit false

/-!
# Reading as a machine

Reading an expression is a matter of calls that wait for one another.  Here the calls that wait
are kept in a list, and what is done between two of them is a step of a machine.  The words stay
as they are, and the machine only keeps the place it has come to in them.

No measure goes into the steps, so that a run comes to an end is nothing that its definition
has to say.  What can be told of a single step is that it takes no more than one word, and only
one that is there, and that it looks at no word before it.
-/

namespace Propositional

namespace Calls

/-- What a call that waits does with the formula it is given. -/
inductive Frame where
  /-- It begins a chain of the tier with it. -/
  | first (tier : Tier)
  /-- It joins it to the chain on the other side of the connective. -/
  | right (c : Connective) (left : Formula)
  /-- It negates it. -/
  | negation
  /-- It has the parenthesis behind it closed. -/
  | group
  deriving DecidableEq, Repr

/-- What is to be done next. -/
inductive Task where
  /-- Read a phrase. -/
  | read (phrase : Phrase)
  /-- Go on with a chain of the tier, which is `left` so far. -/
  | extend (tier : Tier) (left : Formula)
  /-- Take the closing parenthesis behind `inner`. -/
  | close (inner : Formula)
  /-- Give the outcome to the call that waits for it. -/
  | answer (outcome : Except SyntaxError Formula)
  deriving Repr

/-- What a call that waits does next, given the formula. -/
def Frame.resume (formula : Formula) : Frame → Task
  | .first tier => .extend tier formula
  | .right c left => .extend c.tier (.binary c left formula)
  | .negation => .answer (.ok (.not formula))
  | .group => .close formula

/-- What a step does: the task it leads to, and the calls that wait then. -/
inductive Move where
  /-- It leaves the next word alone. -/
  | stay (task : Task) (waiting : List Frame)
  /-- It takes the next word. -/
  | take (task : Task) (waiting : List Frame)
  deriving Repr

/-- The move from a task, if `next?` is the next word and these calls wait, the innermost first.
There is none when an outcome is there and no call waits for it. -/
def move (next? : Option String) : Task → List Frame → Option Move
  | .read (.chain tier), waiting => some (.stay (.read (.operand tier)) (.first tier :: waiting))
  | .read .factor, waiting =>
    match next? with
    | none => some (.stay (.answer (.error .unexpectedEnd)) waiting)
    | some word =>
      match Token.ofWord word with
      | .literal value => some (.take (.answer (.ok (.const value))) waiting)
      | .name x => some (.take (.answer (.ok (.var x))) waiting)
      | .not => some (.take (.read .factor) (.negation :: waiting))
      | .opening => some (.take (.read .expression) (.group :: waiting))
      | .connective _ | .closing | .unknown _ =>
        some (.take (.answer (.error (.unexpectedToken word))) waiting)
  | .extend tier left, waiting =>
    match next?.map Token.ofWord with
    | some (.connective c) =>
      if c.tier = tier then some (.take (.read (.operand tier)) (.right c left :: waiting))
      else some (.stay (.answer (.ok left)) waiting)
    | _ => some (.stay (.answer (.ok left)) waiting)
  | .close inner, waiting =>
    match next? with
    | none => some (.stay (.answer (.error (.unclosedParenthesis none))) waiting)
    | some word =>
      if Token.ofWord word = .closing then some (.take (.answer (.ok inner)) waiting)
      else some (.take (.answer (.error (.unclosedParenthesis (some word)))) waiting)
  | .answer _, [] => none
  | .answer (.ok formula), frame :: waiting => some (.stay (frame.resume formula) waiting)
  | .answer (.error error), _ :: waiting => some (.stay (.answer (.error error)) waiting)

/-- Behind the last word there is none to take. -/
theorem move_none_ne_take {task next : Task} {waiting left : List Frame} :
    move none task waiting ≠ some (.take next left) := by
  cases task with
  | read phrase => cases phrase <;> simp [move]
  | extend tier left => simp [move]
  | close inner => simp [move]
  | answer outcome => cases waiting <;> cases outcome <;> simp [move]

/-! ## Runs -/

/-- Where the machine stands. -/
structure State where
  task : Task
  /-- The calls that wait, the innermost first. -/
  waiting : List Frame
  /-- How many words stand in front of it. -/
  place : Nat
  deriving Repr

namespace State

/-- About to read a phrase from that place on. -/
def begin (phrase : Phrase) (place : Nat) : State := ⟨.read phrase, [], place⟩

/-- Done, with that outcome. -/
def done (outcome : Except SyntaxError Formula) (place : Nat) : State :=
  ⟨.answer outcome, [], place⟩

@[simp] theorem done_inj {outcome other : Except SyntaxError Formula} {p q : Nat} :
    done outcome p = done other q ↔ outcome = other ∧ p = q := by
  simp [done]

/-- How many of the words are left, by a subtraction that stops at zero. -/
def remaining (words : List String) (s : State) : Nat := words.length - s.place

/-- The same state with `n` more words in front of it. -/
def shift (n : Nat) (s : State) : State := { s with place := n + s.place }

end State

/-- Where a move leads from that place. -/
def Move.after (place : Nat) : Move → State
  | .stay task waiting => ⟨task, waiting, place⟩
  | .take task waiting => ⟨task, waiting, place + 1⟩

/-- One step in the words. -/
def step (words : List String) (s : State) : Option State :=
  (move words[s.place]? s.task s.waiting).map (·.after s.place)

theorem step_done (words : List String) (outcome : Except SyntaxError Formula) (place : Nat) :
    step words (.done outcome place) = none := by
  cases outcome <;> rfl

/-- A step from within the words does not lead beyond them. -/
theorem place_le_of_step {words : List String} {s t : State} (h : t ∈ step words s)
    (within : s.place ≤ words.length) : t.place ≤ words.length := by
  obtain ⟨taken, moves, rfl⟩ := Option.map_eq_some_iff.1 h
  cases taken with
  | stay task waiting => exact within
  | take task waiting =>
    cases next : words[s.place]? with
    | none =>
      rw [next] at moves
      exact absurd moves move_none_ne_take
    | some word => exact (List.getElem?_eq_some_iff.1 next).1

/-- A run from within the words never leads beyond them, so those left are counted exactly. -/
theorem place_add_remaining {words : List String} {s t : State}
    (run : StateTransition.Reaches (step words) s t) (within : s.place ≤ words.length) :
    t.place + t.remaining words = words.length := by
  have inside : t.place ≤ words.length := by
    induction run with
    | refl => exact within
    | tail _ last ih => exact place_le_of_step last ih
  exact Nat.add_sub_cancel' inside

/-! ## Words in front -/

theorem Move.after_add (m : Move) (n place : Nat) :
    m.after (n + place) = (m.after place).shift n := by
  cases m <;> rfl

/-- A step does not depend on the words in front of it. -/
theorem step_append (front rest : List String) (s : State) :
    step (front ++ rest) (s.shift front.length) = (step rest s).map (State.shift front.length) := by
  have next : (front ++ rest)[front.length + s.place]? = rest[s.place]? := by
    rw [List.getElem?_append_right (Nat.le_add_right _ _), Nat.add_sub_cancel_left]
  rw [step, State.shift, next, step, Option.map_map]
  refine congrArg (Option.map · _) ?_
  funext m
  exact m.after_add front.length s.place

/-- Nor does a run. -/
theorem eval_append (front rest : List String) (s : State) :
    StateTransition.eval (step (front ++ rest)) (s.shift front.length) =
      State.shift front.length <$> StateTransition.eval (step rest) s := by
  refine StateTransition.tr_eval' _ _ _ (StateTransition.fun_respects.2 ?_) s
  intro s
  have alike := step_append front rest s
  cases taken : step rest s with
  | none => rw [StateTransition.FRespects, alike, taken, Option.map_none]
  | some t =>
    rw [taken, Option.map_some] at alike
    exact .single alike

end Calls

end Propositional
