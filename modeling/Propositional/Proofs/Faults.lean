import Propositional.Proofs.Stretches

set_option autoImplicit false

/-!
# Faults

A fault is reported at the first word that shows it.  Up to that word there is always a way
to go on: an operand where one is awaited, and a closing parenthesis for each open one.
Behind it there is none, and whatever follows, the complaint is the same.
-/

namespace Propositional

namespace Scan

/-- Words that complete what has been begun. -/
def State.completion : State → List String
  | ⟨depth, .operand⟩ => "true" :: List.replicate depth ")"
  | ⟨depth, .operator⟩ => List.replicate depth ")"

theorem leads_replicate_closing (depth : Nat) :
    Leads ⟨depth, .operator⟩ (List.replicate depth ")") ⟨0, .operator⟩ := by
  induction depth with
  | zero => exact .refl _
  | succ depth ih => exact .cons (step_closing Token.ofWord_closing) ih

/-- From any state, its completion leads to where all is closed. -/
theorem leads_completion (s : State) : Leads s s.completion ⟨0, .operator⟩ := by
  obtain ⟨depth, awaits⟩ := s
  cases awaits with
  | operand =>
    have token : Token.ofWord "true" = .literal true := by decide
    exact .cons (step_literal token) (leads_replicate_closing depth)
  | operator => exact leads_replicate_closing depth

/-- A scan that rejects a word does so whatever comes behind the word. -/
theorem Leads.run_of_reject {t : State} {front : List String} {word reason : String}
    (leads : Leads .start front t) (reject : step t word = .reject reason)
    (more : List String) :
    run .start (front ++ word :: more) = (.rejected reason (some word), front.length + 1) := by
  rw [leads.run_append]
  simp only [run, reject]

end Scan

namespace SyntaxError

theorem reason_unexpectedToken_ne {word : String} {found : Option String} :
    (unexpectedToken word).reason ≠ (unclosedParenthesis found).reason := by
  intro same
  have first : ("unexpected token: " ++ word).toList.head? =
      "expected closing parenthesis".toList.head? := congrArg (·.toList.head?) same
  rw [String.toList_append] at first
  cases first

theorem reason_unexpectedEnd_ne {found : Option String} :
    unexpectedEnd.reason ≠ (unclosedParenthesis found).reason := by
  show "unexpected end of input" ≠ "expected closing parenthesis"
  decide

/-- A fault is told by its reason and the word at fault. -/
theorem eq_of_reason_eq {error other : SyntaxError} (reason : error.reason = other.reason)
    (word? : error.word? = other.word?) : error = other := by
  cases error with
  | unexpectedToken word =>
    cases other with
    | unexpectedToken word' => exact congrArg unexpectedToken (Option.some.inj word?)
    | unexpectedEnd => cases word?
    | unclosedParenthesis found => exact absurd reason reason_unexpectedToken_ne
  | unexpectedEnd =>
    cases other with
    | unexpectedToken word' => cases word?
    | unexpectedEnd => rfl
    | unclosedParenthesis found => exact absurd reason reason_unexpectedEnd_ne
  | unclosedParenthesis found =>
    cases other with
    | unexpectedToken word' => exact absurd reason.symm reason_unexpectedToken_ne
    | unexpectedEnd => exact absurd reason.symm reason_unexpectedEnd_ne
    | unclosedParenthesis found' => exact congrArg unclosedParenthesis word?

end SyntaxError

namespace Parse

variable {words front : List String} {error : SyntaxError}

/-- Words that lead anywhere are the front of an expression. -/
theorem exists_readsWhole_append {t : Scan.State} (leads : Scan.Leads .start front t) :
    ∃ (more : List String) (formula : Formula), ReadsWhole (front ++ more) formula := by
  have whole := (leads.append (Scan.leads_completion t)).run_eq
  obtain ⟨formula, read, taken⟩ := ok_of_run whole
  exact ⟨t.completion, formula, read, taken⟩

/-- The reason and the word for which a scan rejects tell the fault that reading finds, and as many
words are taken. -/
theorem ofWords_of_run {taken : Nat}
    (rejected : Scan.run .start words = (.rejected error.reason error.word?, taken)) :
    (ofWords words).outcome = .error error ∧ (ofWords words).taken = taken := by
  obtain ⟨found, outcome, reason, word?, count⟩ := error_of_run rejected
  rw [outcome, SyntaxError.eq_of_reason_eq reason word?]
  exact ⟨rfl, count⟩

theorem outcome_eq_error_of_run (taken : Nat)
    (rejected : Scan.run .start words = (.rejected error.reason error.word?, taken)) :
    (ofWords words).outcome = .error error :=
  (ofWords_of_run rejected).1

/-- A fault stands at the first word that no expression goes on with.  If it was found at a
word, the words before that one are the front of an expression, and with it they are not:
they give the same fault whatever follows.  If it was found at the end, the words are all
the front of an expression. -/
theorem error_at_first_fault (words : List String) (error : SyntaxError)
    (failed : (ofWords words).outcome = .error error) :
    (∀ word : String, error.word? = some word →
      ∃ p : Nat, words[p]? = some word ∧ (ofWords words).taken = p + 1 ∧
        (∃ (more : List String) (formula : Formula),
          ReadsWhole (words.take p ++ more) formula) ∧
        ∀ more : List String,
          (ofWords (words.take (p + 1) ++ more)).outcome = .error error) ∧
    (error.word? = none →
      (ofWords words).taken = words.length ∧
        ∃ (more : List String) (formula : Formula), ReadsWhole (words ++ more) formula) := by
  have rejected := Scan.run_of_error failed
  constructor
  · intro word atWord
    rw [atWord] at rejected
    obtain ⟨front, rest, t, rfl, taken, leads, reject⟩ := Scan.exists_leads_of_rejected rejected
    have upTo : (front ++ word :: rest).take (front.length + 1) = front ++ [word] := by
      rw [List.take_length_add_append]
      rfl
    refine ⟨front.length, ?_, taken, ?_, ?_⟩
    · rw [List.getElem?_append_right (Nat.le_refl _), Nat.sub_self]
      rfl
    · rw [List.take_left]
      exact exists_readsWhole_append leads
    · intro more
      rw [upTo, List.append_assoc, List.singleton_append]
      refine outcome_eq_error_of_run (front.length + 1) ?_
      rw [atWord]
      exact leads.run_of_reject reject more
  · intro atEnd
    rw [atEnd] at rejected
    obtain ⟨taken, t, leads, _⟩ := Scan.leads_of_rejected_end rejected
    exact ⟨taken, exists_readsWhole_append leads⟩

/-- In an open parenthesis, a word behind an operand may be the fault, and so may the end. -/
theorem error_at_first_fault_open :
    (∃ p : Nat, ["(", "a", "b", ")"][p]? = some "b" ∧
      (∃ (more : List String) (formula : Formula),
        ReadsWhole (["(", "a", "b", ")"].take p ++ more) formula) ∧
      ∀ more : List String, (ofWords (["(", "a", "b", ")"].take (p + 1) ++ more)).outcome =
        .error (.unclosedParenthesis (some "b"))) ∧
    ∃ (more : List String) (formula : Formula), ReadsWhole (["(", "not", "a"] ++ more) formula := by
  have atWord : (ofWords ["(", "a", "b", ")"]).outcome =
      .error (.unclosedParenthesis (some "b")) := outcome_eq_error_of_run 3 (by decide)
  have atEnd : (ofWords ["(", "not", "a"]).outcome = .error (.unclosedParenthesis none) :=
    outcome_eq_error_of_run 3 (by decide)
  obtain ⟨p, here, _, before, behind⟩ := (error_at_first_fault _ _ atWord).1 "b" rfl
  exact ⟨⟨p, here, before, behind⟩, ((error_at_first_fault _ _ atEnd).2 rfl).2⟩

end Parse

end Propositional
