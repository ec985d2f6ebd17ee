import Propositional.Proofs.Stretches

set_option autoImplicit false

/-!
# Substitution

To put a formula in place of a variable is to put its words, in parentheses, in place of the
variable's name.  Reading does not tell the two apart: the parentheses keep what stands
between them together, and where a name is no operand an opening parenthesis is none either.
The value afterwards is the one under the assignment that gives the name the value of what
was put in its place.
-/

namespace Propositional

/-! ## Formulas -/

namespace Formula

/-- The formula with another formula in place of each name. -/
def bind (g : String → Formula) : Formula → Formula
  | .var name => g name
  | .const value => .const value
  | .not operand => .not (operand.bind g)
  | .binary c left right => .binary c (left.bind g) (right.bind g)

/-- The formula with `inner` in place of the variable `x`. -/
def subst (f : Formula) (x : String) (inner : Formula) : Formula :=
  f.bind fun name => if name = x then inner else .var name

/-- The leaves are those of what stands in place of the names. -/
theorem leaves_bind (g : String → Formula) (f : Formula) :
    (f.bind g).leaves = f.leaves.flatMap fun name => (g name).leaves := by
  induction f with
  | var name => rw [bind, leaves, List.flatMap_singleton]
  | const value => rfl
  | not operand ih => rw [bind, leaves, ih, leaves]
  | binary c left right ihLeft ihRight =>
    rw [bind, leaves, ihLeft, ihRight, leaves, List.flatMap_append]

/-- What stands in place of the names gives them their values. -/
theorem eval_bind (g : String → Formula) (valuation : String → Bool) (f : Formula) :
    (f.bind g).eval valuation = f.eval fun name => (g name).eval valuation := by
  induction f with
  | var name => rfl
  | const value => rfl
  | not operand ih => rw [bind, eval, ih, eval]
  | binary c left right ihLeft ihRight => rw [bind, eval, ihLeft, ihRight, eval]

/-- Substituting for a variable is the same as assigning it the value of the substitute. -/
theorem value_subst (f : Formula) (x : String) (inner : Formula) (a : Assignment) :
    (f.subst x inner).value a = f.value (a.insert x (inner.value a)) := by
  unfold subst value
  rw [eval_bind]
  congr 1
  funext name
  rw [Assignment.value_insert]
  by_cases same : x = name
  · rw [if_pos same.symm, if_pos same]
  · rw [if_neg (Ne.symm same), if_neg same]
    rfl

end Formula

/-! ## Tokens -/

/-- The token, or in place of a name the tokens that belong to it. -/
def Token.expand (σ : String → List Token) : Token → List Token
  | .name x => σ x
  | token => [token]

/-- Where the tokens in place of each name derive a factor, tokens derive what comes of their
formula with these factors in place of the names. -/
theorem Derives.bind {σ : String → List Token} {g : String → Formula}
    (factors : ∀ x : String, Derives .factor (σ x) (g x)) {phrase : Phrase} {tokens : List Token}
    {formula : Formula} (derives : Derives phrase tokens formula) :
    Derives phrase (tokens.flatMap (Token.expand σ)) (formula.bind g) := by
  induction derives with
  | literal value => exact .literal value
  | name x =>
    rw [List.flatMap_singleton]
    exact factors x
  | not _ ih => exact .not ih
  | group _ ih =>
    rw [List.flatMap_cons, List.flatMap_append, List.flatMap_singleton]
    exact .group ih
  | single _ ih => exact .single ih
  | join among _ _ ihLeft ihRight =>
    rw [List.flatMap_append, List.flatMap_cons]
    exact .join among ihLeft ihRight

/-! ## Words -/

/-- The words with `inner`, in parentheses, in place of each word that is `x`. -/
def replaceWord (x : String) (inner words : List String) : List String :=
  words.flatMap fun word => if word = x then "(" :: (inner ++ [")"]) else [word]

section

variable {x word : String} {inner words rest : List String}

theorem replaceWord_cons_self : replaceWord x inner (x :: rest) =
    "(" :: (inner ++ [")"]) ++ replaceWord x inner rest := by
  simp only [replaceWord, List.flatMap_cons, if_true]

theorem replaceWord_cons_of_ne (different : word ≠ x) :
    replaceWord x inner (word :: rest) = word :: replaceWord x inner rest := by
  simp only [replaceWord, List.flatMap_cons, if_neg different, List.singleton_append]

theorem replaceWord_append (front rest : List String) : replaceWord x inner (front ++ rest) =
    replaceWord x inner front ++ replaceWord x inner rest :=
  List.flatMap_append

/-- An expression ends before the words if it did before they were replaced. -/
theorem endsBefore_replaceWord (last : EndsBefore words) :
    EndsBefore (replaceWord x inner words) := by
  intro word c first
  cases words with
  | nil => cases first
  | cons found rest =>
    by_cases same : found = x
    · subst same
      rw [replaceWord_cons_self] at first
      obtain rfl : "(" = word := Option.some.inj first
      rw [Token.ofWord_opening]
      exact Token.noConfusion
    · rw [replaceWord_cons_of_ne same] at first
      exact last word c first

/-- The tokens in place of a name, for the words in place of the name `x`. -/
def groupFor (x : String) (inner : List String) (name : String) : List Token :=
  if name = x then .opening :: (tokensOf inner ++ [.closing]) else [.name name]

/-- To replace words that are a name is to replace the tokens of that name. -/
theorem tokensOf_replaceWord (named : Token.isName x = true) (inner words : List String) :
    tokensOf (replaceWord x inner words) =
      (tokensOf words).flatMap (Token.expand (groupFor x inner)) := by
  induction words with
  | nil => rfl
  | cons word rest ih =>
    by_cases same : word = x
    · subst same
      have token : Token.ofWord word = .name word := Token.ofWord_of_isName named
      rw [replaceWord_cons_self]
      simp [token, ih, Token.expand, groupFor]
    · rw [replaceWord_cons_of_ne same]
      have kept : Token.expand (groupFor x inner) (Token.ofWord word) = [Token.ofWord word] := by
        cases token : Token.ofWord word with
        | name y =>
          obtain ⟨rfl, _⟩ := Token.ofWord_eq_name_iff.1 token
          simp [Token.expand, groupFor, same]
        | _ => rfl
      simp [kept, ih]

end

namespace Scan

variable {x : String} {inner words : List String} {s t : State} {depth : Nat}

/-- A name is taken where an operand is awaited, and nowhere else. -/
theorem eq_of_step_name (named : Token.isName x = true) (take : step s x = .take t) :
    ∃ depth, s = ⟨depth, .operand⟩ ∧ t = ⟨depth, .operator⟩ := by
  have token : Token.ofWord x = .name x := Token.ofWord_of_isName named
  obtain ⟨depth, awaits⟩ := s
  cases awaits with
  | operand =>
    rw [step_name token] at take
    exact ⟨depth, rfl, (Action.take.inj take).symm⟩
  | operator => cases depth <;> simp [step, token] at take

/-- Behind an operand a name is as wrong as an opening parenthesis. -/
theorem step_opening_of_step_name {reason : String} (named : Token.isName x = true)
    (reject : step s x = .reject reason) : step s "(" = .reject reason := by
  have token : Token.ofWord x = .name x := Token.ofWord_of_isName named
  obtain ⟨depth, awaits⟩ := s
  cases awaits with
  | operand => simp [step_name token] at reject
  | operator =>
    rw [← reject]
    cases depth <;> simp only [step, token, Token.ofWord_opening]

section

variable (named : Token.isName x = true)
  (operand : ∀ depth, Leads ⟨depth, .operand⟩ ("(" :: (inner ++ [")"])) ⟨depth, .operator⟩)
include named operand

/-- A stretch stays one when words that are an operand are put in place of a name. -/
theorem Leads.replaceWord (leads : Leads s words t) :
    Leads s (replaceWord x inner words) t := by
  induction leads with
  | refl s => exact .refl s
  | @cons s middle t word rest take _ ih =>
    by_cases same : word = x
    · subst same
      obtain ⟨depth, rfl, rfl⟩ := eq_of_step_name named take
      rw [replaceWord_cons_self]
      exact (operand depth).append ih
    · rw [replaceWord_cons_of_ne same]
      exact .cons take ih

/-- Where the words are rejected, they are rejected for the same reason with an operand in
place of a name. -/
theorem run_replaceWord_of_rejected {reason : String} {word? : Option String} {k : Nat}
    (rejected : run s words = (.rejected reason word?, k)) :
    ∃ (other? : Option String) (l : Nat),
      run s (Propositional.replaceWord x inner words) = (.rejected reason other?, l) := by
  cases word? with
  | none =>
    obtain ⟨_, t, leads, stop⟩ := leads_of_rejected_end rejected
    refine ⟨none, (Propositional.replaceWord x inner words).length, ?_⟩
    rw [(leads.replaceWord named operand).run_eq, stop]
  | some word =>
    obtain ⟨front, rest, t, rfl, _, leads, reject⟩ := exists_leads_of_rejected rejected
    rw [replaceWord_append, (leads.replaceWord named operand).run_append]
    by_cases same : word = x
    · subst same
      have opening : step t "(" = .reject reason := step_opening_of_step_name named reject
      rw [replaceWord_cons_self, List.cons_append]
      simp only [run, opening]
      exact ⟨_, _, rfl⟩
    · rw [replaceWord_cons_of_ne same]
      simp only [run, reject]
      exact ⟨_, _, rfl⟩

end

end Scan

namespace Parse

variable {x : String} {inner words : List String} {meaning formula : Formula}

/-- An expression that the words begin with is one afterwards, with the formula of the words
put in place of the variable. -/
theorem outcome_replaceWord_of_ok (named : Token.isName x = true)
    (derives : Derives .expression (tokensOf inner) meaning)
    (read : (ofWords words).outcome = .ok formula) :
    (ofWords (replaceWord x inner words)).outcome = .ok (formula.subst x meaning) := by
  have factors : ∀ name : String, Derives .factor (groupFor x inner name)
      (if name = x then meaning else .var name) := by
    intro name
    unfold groupFor
    by_cases same : name = x
    · rw [if_pos same, if_pos same]
      exact .group derives
    · rw [if_neg same, if_neg same]
      exact .name name
  obtain ⟨front, rest, rfl, _, derivesFront, last⟩ := (Begins.of_ofWords read).exists_append
  have replaced := derivesFront.bind factors
  rw [← tokensOf_replaceWord named] at replaced
  rw [replaceWord_append]
  exact (Begins.of_append replaced (endsBefore_replaceWord last)).ofWords_eq.1

/-- Words that are no expression are none afterwards, and the reason is the same. -/
theorem outcome_replaceWord_of_error (named : Token.isName x = true)
    (derives : Derives .expression (tokensOf inner) meaning) {error : SyntaxError}
    (failed : (ofWords words).outcome = .error error) :
    ∃ other : SyntaxError, (ofWords (replaceWord x inner words)).outcome = .error other ∧
      other.reason = error.reason := by
  have operand : ∀ depth, Scan.Leads ⟨depth, .operand⟩ ("(" :: (inner ++ [")"]))
      ⟨depth, .operator⟩ := Scan.leads_of_derives derives.group_words
  obtain ⟨other?, l, rejected⟩ :=
    Scan.run_replaceWord_of_rejected named operand (Scan.run_of_error failed)
  obtain ⟨other, outcome, reason, _⟩ := error_of_run rejected
  exact ⟨other, outcome, reason⟩

/-- To put the words of an expression, in parentheses, in place of a name is to put its
formula in place of the variable: words that are read give the formula with the other one
substituted, and words that are not read give an error with the same reason.  The value of
the result is that under the assignment in which the variable has the value of what was put
in its place. -/
theorem outcome_replaceWord (x : String) (inner words : List String) (meaning : Formula)
    (named : Token.isName x = true) (whole : ReadsWhole inner meaning) :
    (ofWords (replaceWord x inner words)).outcome.mapError SyntaxError.reason =
      ((ofWords words).outcome.map fun formula => formula.subst x meaning).mapError
        SyntaxError.reason ∧
    ∀ (formula : Formula) (a : Assignment),
      (formula.subst x meaning).value a = formula.value (a.insert x (meaning.value a)) := by
  have derives := readsWhole_iff_derives.1 whole
  refine ⟨?_, fun formula a => Formula.value_subst formula x meaning a⟩
  cases outcome : (ofWords words).outcome with
  | ok formula => rw [outcome_replaceWord_of_ok named derives outcome]; rfl
  | error error =>
    obtain ⟨other, failed, reason⟩ := outcome_replaceWord_of_error named derives outcome
    rw [failed]
    exact congrArg Except.error reason

/-- A disjunction in place of a name is negated and joined as a whole, and what was put in
place of a word left over is left over. -/
theorem outcome_replaceWord_disjunction :
    Token.isName "x" = true ∧
      ReadsWhole ["a", "or", "b"] (.binary .or (.var "a") (.var "b")) ∧
      replaceWord "x" ["a", "or", "b"] ["not", "x", "and", "c", "x"] =
        ["not", "(", "a", "or", "b", ")", "and", "c", "(", "a", "or", "b", ")"] ∧
      (ofWords ["not", "(", "a", "or", "b", ")", "and", "c", "(", "a", "or", "b",
          ")"]).outcome.mapError SyntaxError.reason =
        .ok (.binary .and (.not (.binary .or (.var "a") (.var "b"))) (.var "c")) := by
  have named : Token.isName "x" = true := by decide
  have whole : ReadsWhole ["a", "or", "b"] (.binary .or (.var "a") (.var "b")) := by
    refine readsWhole_iff_derives.2 (.single ?_)
    exact Derives.join_on_tier (c := .or) (.single (.name "a")) (.name "b")
  have derives : Derives .expression (tokensOf ["not", "x", "and", "c"])
      (.binary .and (.not (.var "x")) (.var "c")) := by
    refine .single ?_
    exact Derives.join_on_tier (c := .and) (.single (.not (.name "x"))) (.name "c")
  have last : EndsBefore ["x"] := by
    intro word c first
    obtain rfl : "x" = word := Option.some.inj first
    rw [Token.ofWord_of_isName named]
    exact Token.noConfusion
  have read : (ofWords ["not", "x", "and", "c", "x"]).outcome =
      .ok (.binary .and (.not (.var "x")) (.var "c")) :=
    (Begins.of_append derives last).ofWords_eq.1
  have spelled : replaceWord "x" ["a", "or", "b"] ["not", "x", "and", "c", "x"] =
      ["not", "(", "a", "or", "b", ")", "and", "c", "(", "a", "or", "b", ")"] := by decide
  have replaced := (outcome_replaceWord "x" ["a", "or", "b"] ["not", "x", "and", "c", "x"] _
    named whole).1
  rw [spelled, read] at replaced
  exact ⟨named, whole, spelled, replaced⟩

end Parse

end Propositional
