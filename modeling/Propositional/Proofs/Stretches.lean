import Propositional.Proofs.Scan

set_option autoImplicit false

/-!
# Stretches of a scan

A scan keeps nothing of the words it has taken but its state, so what comes behind them is
scanned in the same way whatever they were.  `Scan.Leads` is the relation between the states
at the two ends of a stretch of words.  Words that derive a phrase are such a
stretch: from where an operand is awaited they lead to where a connective is, with as many
parentheses open as before.

Reading is tied to stretches here.  What is read leads to a state that accepts, and a fault
stands where a stretch from the beginning meets a word that it cannot take, or the end.
-/

namespace Propositional

namespace Scan

/-- Taking `words`, one after the other, leads from the first state to the second. -/
inductive Leads : State → List String → State → Prop where
  | refl (s : State) : Leads s [] s
  | cons {s middle t : State} {word : String} {words : List String}
      (take : step s word = .take middle) (tail : Leads middle words t) :
      Leads s (word :: words) t

variable {s t middle : State} {word : String} {words more : List String} {depth : Nat}

namespace Leads

theorem single (take : step s word = .take t) : Leads s [word] t :=
  .cons take (.refl t)

/-- Two stretches in a row are one stretch. -/
theorem append (first : Leads s words middle) (second : Leads middle more t) :
    Leads s (words ++ more) t := by
  induction first with
  | refl s => exact second
  | cons take _ ih => exact .cons take (ih second)

/-- Behind a stretch, a scan goes on from the state it has led to. -/
theorem run_append (h : Leads s words t) (rest : List String) :
    run s (words ++ rest) = ((run t rest).1, words.length + (run t rest).2) := by
  induction h with
  | refl s => simp only [List.nil_append, List.length_nil, Nat.zero_add]
  | cons take _ ih =>
    simp only [List.cons_append, run, take, ih, List.length_cons, Prod.mk.injEq, true_and]
    omega

/-- A stretch that is all there is ends as its last state has it. -/
theorem run_eq (h : Leads s words t) : run s words = (finish t, words.length) := by
  have whole := h.run_append []
  rw [List.append_nil] at whole
  exact whole

end Leads

/-! ## Single steps -/

theorem step_not (token : Token.ofWord word = .not) :
    step ⟨depth, .operand⟩ word = .take ⟨depth, .operand⟩ := by
  simp only [step, token]

theorem step_literal {value : Bool} (token : Token.ofWord word = .literal value) :
    step ⟨depth, .operand⟩ word = .take ⟨depth, .operator⟩ := by
  simp only [step, token]

theorem step_name {x : String} (token : Token.ofWord word = .name x) :
    step ⟨depth, .operand⟩ word = .take ⟨depth, .operator⟩ := by
  simp only [step, token]

theorem step_opening (token : Token.ofWord word = .opening) :
    step ⟨depth, .operand⟩ word = .take ⟨depth + 1, .operand⟩ := by
  simp only [step, token]

theorem step_closing (token : Token.ofWord word = .closing) :
    step ⟨depth + 1, .operator⟩ word = .take ⟨depth, .operator⟩ := by
  simp only [step, token]

/-! ## Parts of an expression -/

/-- A phrase stands between an operand that is awaited and a connective that
is, and opens no parenthesis that it does not close. -/
theorem leads_of_derives {phrase : Phrase} {words : List String} {formula : Formula}
    (derives : Derives phrase (tokensOf words) formula) :
    ∀ depth : Nat, Leads ⟨depth, .operand⟩ words ⟨depth, .operator⟩ := by
  induction derives using Derives.words_induction with
  | literal token =>
    intro depth
    exact .single (step_literal token)
  | name token =>
    intro depth
    exact .single (step_name token)
  | not token _ ih =>
    intro depth
    exact .cons (step_not token) (ih depth)
  | @group inner _ _ ih =>
    intro depth
    have inside : Leads ⟨depth + 1, .operand⟩ inner ⟨depth + 1, .operator⟩ := ih (depth + 1)
    exact .cons (step_opening Token.ofWord_opening)
      (inside.append (.single (step_closing Token.ofWord_closing)))
  | single _ ih => exact ih
  | join token _ _ ihLeft ihRight =>
    intro depth
    exact (ihLeft depth).append (.cons (step_connective token) (ihRight depth))

/-- With nothing open, a scan accepts where an expression ends. -/
theorem run_of_endsBefore (last : EndsBefore words) :
    run ⟨0, .operator⟩ words = (.accepted, 0) := by
  cases words with
  | nil => rfl
  | cons word rest =>
    have accept : step ⟨0, .operator⟩ word = .accept := by
      simp only [step]
      split
      · rename_i c token
        exact absurd token (last word c rfl)
      · rfl
    simp only [run, accept]

/-! ## Where a scan rejects -/

/-- A scan takes words as long as it can: it stops behind a stretch, before a word that it does
not take or at the end. -/
theorem exists_leads (words : List String) :
    ∀ s : State, ∃ (front rest : List String) (t : State), words = front ++ rest ∧
      Leads s front t ∧
        ∀ (word : String) (next : State), rest.head? = some word → step t word ≠ .take next := by
  induction words with
  | nil =>
    intro s
    refine ⟨[], [], s, rfl, .refl s, ?_⟩
    intro word next none
    cases none
  | cons first rest ih =>
    intro s
    by_cases taken : ∃ middle, step s first = .take middle
    · obtain ⟨middle, take⟩ := taken
      obtain ⟨front, more, t, rfl, leads, last⟩ := ih middle
      exact ⟨first :: front, more, t, rfl, .cons take leads, last⟩
    · refine ⟨[], first :: rest, s, rfl, .refl s, ?_⟩
      intro word next here take
      obtain rfl := Option.some.inj here
      exact taken ⟨next, take⟩

/-- Where the words end, no word is at fault. -/
theorem finish_ne_rejected_some {reason : String} : finish t ≠ .rejected reason (some word) := by
  obtain ⟨depth, awaits⟩ := t
  cases awaits with
  | operand => simp [finish]
  | operator => cases depth <;> simp [finish]

/-- A scan that rejects a word has taken a stretch up to it. -/
theorem exists_leads_of_rejected {reason : String} {k : Nat}
    (h : run s words = (.rejected reason (some word), k)) :
    ∃ (front rest : List String) (t : State), words = front ++ word :: rest ∧
      k = front.length + 1 ∧ Leads s front t ∧ step t word = .reject reason := by
  obtain ⟨front, rest, t, rfl, leads, last⟩ := exists_leads words s
  rw [leads.run_append] at h
  cases rest with
  | nil => exact absurd (congrArg Prod.fst h) finish_ne_rejected_some
  | cons found more =>
    cases action : step t found with
    | take next => exact absurd action (last found next rfl)
    | accept => simp [run, action] at h
    | reject cause =>
      simp only [run, action, Prod.mk.injEq, Ending.rejected.injEq, Option.some.injEq] at h
      obtain ⟨⟨rfl, rfl⟩, rfl⟩ := h
      exact ⟨front, more, t, rfl, rfl, leads, action⟩

/-- A scan that rejects without a word has taken all there are. -/
theorem leads_of_rejected_end {reason : String} {k : Nat}
    (h : run s words = (.rejected reason none, k)) :
    k = words.length ∧ ∃ t : State, Leads s words t ∧ finish t = .rejected reason none := by
  obtain ⟨front, rest, t, rfl, leads, last⟩ := exists_leads words s
  cases rest with
  | nil =>
    rw [List.append_nil, leads.run_eq, Prod.mk.injEq] at h
    rw [List.append_nil]
    exact ⟨h.2.symm, t, leads, h.1⟩
  | cons found more =>
    rw [leads.run_append] at h
    cases action : step t found with
    | take next => exact absurd action (last found next rfl)
    | accept => simp [run, action] at h
    | reject cause => simp [run, action] at h

/-! ## Reading and stretches -/

/-- Where reading succeeds, a scan accepts behind the same words. -/
theorem run_of_ok {formula : Formula} (read : (Parse.ofWords words).outcome = .ok formula) :
    run .start words = (.accepted, (Parse.ofWords words).taken) := by
  obtain ⟨front, rest, parts, taken, derives, last⟩ := (Begins.of_ofWords read).exists_append
  have stretch : Leads .start front ⟨0, .operator⟩ := leads_of_derives derives 0
  rw [taken, parts, stretch.run_append, run_of_endsBefore last]
  rfl

/-- Where reading fails, a scan rejects for the same reason at the same word. -/
theorem run_of_error {error : SyntaxError}
    (failed : (Parse.ofWords words).outcome = .error error) :
    run .start words = (.rejected error.reason error.word?, (Parse.ofWords words).taken) := by
  have whole := runAt_chain 0 .comparison (Reader.start words)
  cases read : Reader.chain .comparison (Reader.start words) with
  | read formula after shorter =>
    simp only [Parse.ofWords, read] at failed
    cases failed
  | failed found after =>
    simp only [Parse.ofWords, read, Except.error.injEq] at failed ⊢
    subst failed
    rw [read] at whole
    simp only [resume, runAt, Reader.start, Nat.zero_add] at whole
    exact whole

end Scan

namespace Parse

variable {words : List String} {taken : Nat}

/-- Words that a scan accepts are read, and no more of them are taken. -/
theorem ok_of_run (accepted : Scan.run .start words = (.accepted, taken)) :
    ∃ formula : Formula, (ofWords words).outcome = .ok formula ∧ (ofWords words).taken = taken := by
  cases outcome : (ofWords words).outcome with
  | ok formula =>
    have same := (Scan.run_of_ok outcome).symm.trans accepted
    exact ⟨formula, rfl, congrArg Prod.snd same⟩
  | error error =>
    have same := (Scan.run_of_error outcome).symm.trans accepted
    simp at same

/-- Words that a scan rejects are not read, and the reason is the same. -/
theorem error_of_run {reason : String} {word? : Option String}
    (rejected : Scan.run .start words = (.rejected reason word?, taken)) :
    ∃ error : SyntaxError, (ofWords words).outcome = .error error ∧ error.reason = reason ∧
      error.word? = word? ∧ (ofWords words).taken = taken := by
  cases outcome : (ofWords words).outcome with
  | ok formula =>
    have same := (Scan.run_of_ok outcome).symm.trans rejected
    simp at same
  | error error =>
    have same := (Scan.run_of_error outcome).symm.trans rejected
    simp only [Prod.mk.injEq, Scan.Ending.rejected.injEq] at same
    exact ⟨error, rfl, same.1.1, same.1.2, same.2⟩

end Parse

end Propositional
