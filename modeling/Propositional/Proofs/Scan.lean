import Propositional.Proofs.Recognition

set_option autoImplicit false

/-!
# Reading as a scan

A scan goes through the words once and keeps no more than the number of parentheses
that are open and whether an operand or a connective has to come next.  It builds no
formula, but it ends as reading does: at the same word, with the same complaint.

What the readers keep in their pending calls is the depth here.  Each of them is a stretch
of the scan that begins where an operand is awaited and ends where a connective is, at
the same depth.
-/

namespace Propositional

namespace Scan

/-- What has to come next. -/
inductive Awaits where
  /-- The beginning of an operand. -/
  | operand
  /-- A connective, or the end of what is open. -/
  | operator
  deriving DecidableEq, Repr

/-- Where a scan stands. -/
structure State where
  /-- How many parentheses are open. -/
  depth : Nat
  /-- What has to come next. -/
  awaits : Awaits
  deriving DecidableEq, Repr

/-- Nothing is open, and an operand has to come. -/
def State.start : State := ⟨0, .operand⟩

/-- How a scan ends. -/
inductive Ending where
  /-- An expression is complete. -/
  | accepted
  /-- There is none, for that reason; the word at fault was taken, or there was none
  left to take. -/
  | rejected (reason : String) (word? : Option String)
  deriving DecidableEq, Repr

/-- What a scan does at a word. -/
inductive Action where
  /-- It takes the word and goes on. -/
  | take (next : State)
  /-- It leaves the word alone and accepts. -/
  | accept
  /-- It takes the word and rejects. -/
  | reject (reason : String)
  deriving DecidableEq, Repr

/-- One step of a scan. -/
def step : State → String → Action
  | ⟨depth, .operand⟩, word =>
    match Token.ofWord word with
    | .not => .take ⟨depth, .operand⟩
    | .literal _ | .name _ => .take ⟨depth, .operator⟩
    | .opening => .take ⟨depth + 1, .operand⟩
    | .connective _ | .closing | .unknown _ => .reject ("unexpected token: " ++ word)
  | ⟨0, .operator⟩, word =>
    match Token.ofWord word with
    | .connective _ => .take ⟨0, .operand⟩
    | _ => .accept
  | ⟨depth + 1, .operator⟩, word =>
    match Token.ofWord word with
    | .connective _ => .take ⟨depth + 1, .operand⟩
    | .closing => .take ⟨depth, .operator⟩
    | _ => .reject "expected closing parenthesis"

/-- What becomes of a scan when the words end. -/
def finish : State → Ending
  | ⟨_, .operand⟩ => .rejected "unexpected end of input" none
  | ⟨0, .operator⟩ => .accepted
  | ⟨_ + 1, .operator⟩ => .rejected "expected closing parenthesis" none

/-- Scans a list of words, and counts those that were taken. -/
def run : State → List String → Ending × Nat
  | s, [] => (finish s, 0)
  | s, word :: rest =>
    match step s word with
    | .take next => ((run next rest).1, (run next rest).2 + 1)
    | .accept => (.accepted, 0)
    | .reject reason => (.rejected reason (some word), 1)

/-! ## Scanning on behind a reader -/

/-- Scans what a reader has left, and counts on from what it has taken. -/
def runAt (s : State) (r : Reader) : Ending × Nat :=
  ((run s r.rest).1, r.taken + (run s r.rest).2)

section

variable {s next : State} {r : Reader} {word reason : String} {rest : List String}

theorem runAt_of_nil (h : r.rest = []) : runAt s r = (finish s, r.taken) := by
  simp only [runAt, h, run, Nat.add_zero]

theorem runAt_of_take (h : r.rest = word :: rest) (take : step s word = .take next) :
    runAt s r = runAt next (r.pass word rest) := by
  simp only [runAt, h, run, take, Reader.rest_pass, Reader.taken_pass, Prod.mk.injEq, true_and]
  omega

theorem runAt_of_accept (h : r.rest = word :: rest) (accept : step s word = .accept) :
    runAt s r = (.accepted, r.taken) := by
  simp only [runAt, h, run, accept, Nat.add_zero]

theorem runAt_of_reject (h : r.rest = word :: rest) (reject : step s word = .reject reason) :
    runAt s r = (.rejected reason (some word), r.taken + 1) := by
  simp only [runAt, h, run, reject]

/-- Behind an operand, a connective is taken at any depth, and another operand awaited. -/
theorem step_connective {depth : Nat} {c : Connective} (token : Token.ofWord word = .connective c) :
    step ⟨depth, .operator⟩ word = .take ⟨depth, .operand⟩ := by
  cases depth with
  | zero => simp only [step, token]
  | succ depth => simp only [step, token]

/-- No operand begins with a connective, a closing parenthesis or a word of no meaning. -/
theorem step_misplaced {depth : Nat}
    (token : (∃ c, Token.ofWord word = .connective c) ∨ Token.ofWord word = .closing ∨
      ∃ w, Token.ofWord word = .unknown w) :
    step ⟨depth, .operand⟩ word = .reject ("unexpected token: " ++ word) := by
  rcases token with ⟨c, token⟩ | token | ⟨w, token⟩
  · simp only [step, token]
  · simp only [step, token]
  · simp only [step, token]

/-- With nothing open, an expression is complete where reading would stop. -/
theorem runAt_of_ends (ends : r.Ends .expression) :
    runAt ⟨0, .operator⟩ r = (.accepted, r.taken) := by
  cases h : r.rest with
  | nil => rw [runAt_of_nil h, finish]
  | cons word rest =>
    refine runAt_of_accept h ?_
    simp only [step]
    split
    · rename_i c token
      exact absurd trivial (ends word rest c h token)
    · rfl

end

end Scan

/-- The word at fault, if the words did not end before it. -/
def SyntaxError.word? : SyntaxError → Option String
  | .unexpectedToken word => some word
  | .unexpectedEnd => none
  | .unclosedParenthesis found => found

/-- How reading ended, without what was read. -/
def Parse.ending (p : Parse) : Scan.Ending :=
  match p.outcome with
  | .ok _ => .accepted
  | .error error => .rejected error.reason error.word?

namespace Scan

variable {bound large : Nat}

/-- Scans on behind a part that was read, where a connective is awaited; behind one that
was not there is no more to scan. -/
def resume (depth : Nat) : Progress bound → Ending × Nat
  | .read _ after _ => runAt ⟨depth, .operator⟩ after
  | .failed error after => (.rejected error.reason error.word?, after.taken)

@[simp] theorem resume_weaken (depth : Nat) (h : bound ≤ large) (p : Progress bound) :
    resume depth (p.weaken h) = resume depth p := by
  cases p <;> rfl

/-- Behind the expression in a parenthesis, a scan takes the step that closes it. -/
theorem runAt_close (depth : Nat) (inner : Formula) {r : Reader} (ends : r.Ends .expression) :
    runAt ⟨depth + 1, .operator⟩ r = resume depth (r.close inner) := by
  cases h : r.rest with
  | nil =>
    rw [runAt_of_nil h, Reader.close_of_nil h]
    rfl
  | cons word rest =>
    rw [Reader.close_of_cons h]
    by_cases closing : Token.ofWord word = .closing
    · rw [if_pos closing]
      refine runAt_of_take h ?_
      simp only [step, closing]
    · rw [if_neg closing]
      refine runAt_of_reject h ?_
      simp only [step]
      split
      · rename_i c token
        exact absurd trivial (ends word rest c h token)
      · rename_i token
        exact absurd token closing
      · rfl

-- As for soundness, the induction is that of the readers.  The depth is arbitrary, since
-- a parenthesis raises it for what stands inside.
mutual

theorem runAt_chain (depth : Nat) (tier : Tier) (r : Reader) :
    runAt ⟨depth, .operand⟩ r = resume depth (Reader.chain tier r) := by
  have first := runAt_operand depth tier r
  cases read : Reader.operand tier r with
  | failed error after =>
    rw [Reader.chain_of_failed read, first, read]
  | read left after shorter =>
    have tail := runAt_extend depth tier left after
    rw [Reader.chain_of_read read, resume_weaken, first, read]
    exact tail
termination_by (r.size, tier.depth + 1)

theorem runAt_operand (depth : Nat) (tier : Tier) (r : Reader) :
    runAt ⟨depth, .operand⟩ r = resume depth (Reader.operand tier r) := by
  cases tier with
  | comparison =>
    rw [Reader.operand_comparison]
    exact runAt_chain depth .logical r
  | logical =>
    rw [Reader.operand_logical]
    exact runAt_factor depth r
termination_by (r.size, tier.depth)

theorem runAt_extend (depth : Nat) (tier : Tier) (left : Formula) (r : Reader) :
    runAt ⟨depth, .operator⟩ r = resume depth (Reader.extend tier left r) := by
  cases next : r.rest with
  | nil =>
    rw [Reader.extend_of_nil next]
    rfl
  | cons word rest =>
    rcases Reader.connective_or_other tier word with ⟨c, token, rfl⟩ | other
    · have shorter : (r.pass word rest).size < r.size := Reader.size_pass next
      have second := runAt_operand depth c.tier (r.pass word rest)
      rw [runAt_of_take next (step_connective token), second]
      cases read : Reader.operand c.tier (r.pass word rest) with
      | failed error after =>
        rw [Reader.extend_of_failed next token read]
        rfl
      | read right after less =>
        have tail := runAt_extend depth c.tier (.binary c left right) after
        rw [Reader.extend_of_read next token read, resume_weaken]
        exact tail
    · rw [Reader.extend_of_other next other]
      rfl
termination_by (r.size, 0)

theorem runAt_factor (depth : Nat) (r : Reader) :
    runAt ⟨depth, .operand⟩ r = resume depth (Reader.factor r) := by
  cases next : r.rest with
  | nil =>
    rw [runAt_of_nil next, Reader.factor_of_nil next]
    rfl
  | cons word rest =>
    have shorter : (r.pass word rest).size < r.size := Reader.size_pass next
    rw [Reader.factor_of_cons next]
    cases token : Token.ofWord word with
    | literal value => exact runAt_of_take next (by simp only [step, token])
    | name x => exact runAt_of_take next (by simp only [step, token])
    | not =>
      have take : step ⟨depth, .operand⟩ word = .take ⟨depth, .operand⟩ := by
        simp only [step, token]
      rw [runAt_of_take next take, runAt_factor depth (r.pass word rest)]
      cases Reader.factor (r.pass word rest) with
      | failed error after => rfl
      | read operand after less => rfl
    | opening =>
      have take : step ⟨depth, .operand⟩ word = .take ⟨depth + 1, .operand⟩ := by
        simp only [step, token]
      have sound := Reader.sound_chain .comparison (r.pass word rest)
      rw [runAt_of_take next take, runAt_chain (depth + 1) .comparison (r.pass word rest)]
      cases read : Reader.chain .comparison (r.pass word rest) with
      | failed error after => rfl
      | read inner after less =>
        rw [read] at sound
        obtain ⟨words, passes, derives, ends⟩ := sound
        exact (runAt_close depth inner ends).trans (resume_weaken depth _ _).symm
    | connective c => exact runAt_of_reject next (step_misplaced (.inl ⟨c, token⟩))
    | closing => exact runAt_of_reject next (step_misplaced (.inr (.inl token)))
    | unknown w => exact runAt_of_reject next (step_misplaced (.inr (.inr ⟨w, token⟩)))
termination_by (r.size, 0)

end

end Scan

/-- Reading a list of words ends as scanning it does, accepting it or rejecting it for the
same reason at the same word, and takes as many words. -/
theorem Parse.ending_taken_eq_run (words : List String) :
    ((Parse.ofWords words).ending, (Parse.ofWords words).taken) = Scan.run .start words := by
  have whole := Scan.runAt_chain 0 .comparison (Reader.start words)
  have begun : Scan.runAt .start (Reader.start words) = Scan.run .start words := by
    simp only [Scan.runAt, Reader.start, Nat.zero_add]
  rw [← begun, Scan.State.start, whole]
  have sound := Reader.sound_chain .comparison (Reader.start words)
  cases read : Reader.chain .comparison (Reader.start words) with
  | failed error after => simp only [Parse.ofWords, read, Parse.ending, Scan.resume]
  | read formula after shorter =>
    rw [read] at sound
    obtain ⟨front, passes, derives, ends⟩ := sound
    simp only [Parse.ofWords, read, Parse.ending, Scan.resume, Scan.runAt_of_ends ends]

/-- With a parenthesis open, a word that neither goes on nor closes it is taken. -/
example : Scan.run .start ["(", "a", "b", ")"] =
    (.rejected "expected closing parenthesis" (some "b"), 3) := by
  decide

end Propositional
