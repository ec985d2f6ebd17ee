import Propositional.Formula.Parse.Lemmas
import Propositional.Proofs.Grammar

set_option autoImplicit false

/-!
# Runs of a reader

A reader takes words one at a time and from the front, so the words it has taken say
where it stands.  `Reader.Passes` is that relation, `Reader.Ends` tells from the next word
whether a phrase of an expression can go on, and `Progress.result` is what a reading step
comes to once its bound on the words left over is forgotten.
-/

namespace Propositional

namespace Reader

/-- Taking `words`, one after the other, leads from the first reader to the second. -/
inductive Passes : Reader → List String → Reader → Prop where
  | refl (r : Reader) : Passes r [] r
  | cons {r after : Reader} {word : String} {rest words : List String}
      (next : r.rest = word :: rest) (tail : Passes (r.pass word rest) words after) :
      Passes r (word :: words) after

namespace Passes

variable {r middle after : Reader} {word : String} {rest words more : List String}

/-- A single word. -/
theorem single (next : r.rest = word :: rest) : Passes r [word] (r.pass word rest) :=
  .cons next (.refl _)

/-- Two runs in a row are one run. -/
theorem append (first : Passes r words middle) (second : Passes middle more after) :
    Passes r (words ++ more) after := by
  induction first with
  | refl r => exact second
  | cons next _ ih => exact .cons next (ih second)

/-- A run can be cut behind any of its words. -/
theorem split (h : Passes r (words ++ more) after) :
    ∃ middle, Passes r words middle ∧ Passes middle more after := by
  induction words generalizing r with
  | nil => exact ⟨r, .refl r, h⟩
  | cons word words ih =>
    rw [List.cons_append] at h
    cases h with
    | cons next tail =>
      obtain ⟨middle, first, second⟩ := ih tail
      exact ⟨middle, .cons next first, second⟩

/-- A run over at least one word begins by taking it. -/
theorem uncons (h : Passes r (word :: words) after) :
    ∃ rest, r.rest = word :: rest ∧ Passes (r.pass word rest) words after := by
  cases h with
  | cons next tail => exact ⟨_, next, tail⟩

/-- What is taken and what is left are what there was. -/
theorem rest_eq (h : Passes r words after) : r.rest = words ++ after.rest := by
  induction h with
  | refl r => rfl
  | cons next _ ih => rw [next, List.cons_append, ← ih, rest_pass]

/-- Every word that is taken is counted. -/
theorem taken_eq (h : Passes r words after) : after.taken = r.taken + words.length := by
  induction h with
  | refl r => rfl
  | cons _ _ ih =>
    rw [ih, taken_pass, List.length_cons]
    omega

/-- Any words that come first can be taken. -/
theorem exists_of_rest_eq (h : r.rest = words ++ more) :
    ∃ after, Passes r words after ∧ after.rest = more := by
  induction words generalizing r with
  | nil => exact ⟨r, .refl r, h⟩
  | cons word words ih =>
    obtain ⟨after, tail, left⟩ := ih (r := r.pass word (words ++ more)) rfl
    exact ⟨after, .cons h tail, left⟩

end Passes

/-! ## Where a phrase ends -/

/-- No connective that goes on with such a phrase comes next. -/
def Ends (phrase : Phrase) (r : Reader) : Prop :=
  ∀ (word : String) (rest : List String) (c : Connective),
    r.rest = word :: rest → Token.ofWord word = .connective c → ¬ phrase.Joins c

section

variable {phrase : Phrase} {tier : Tier} {r : Reader} {word : String} {rest : List String}

theorem ends_factor (r : Reader) : Ends .factor r := by
  intro word rest c _ _ joins
  exact joins

theorem ends_of_nil (h : r.rest = []) : Ends phrase r := by
  intro word rest c next
  rw [h] at next
  cases next

/-- At a word, a phrase ends if the word does not go on with it. -/
theorem ends_of_cons (h : r.rest = word :: rest)
    (apart : ∀ c, Token.ofWord word = .connective c → ¬ phrase.Joins c) : Ends phrase r := by
  intro found tail c next token
  obtain ⟨rfl, rfl⟩ := List.cons.inj (h.symm.trans next)
  exact apart c token

/-- A chain ends where its last operand does, unless a connective of its tier follows. -/
theorem ends_chain (h : r.rest = word :: rest) (operandEnds : Ends (.operand tier) r)
    (other : ∀ c, Token.ofWord word = .connective c → c.tier ≠ tier) :
    Ends (.chain tier) r := by
  refine ends_of_cons h ?_
  intro c token joins
  rcases Phrase.joins_chain_iff.1 joins with same | joins
  · exact other c token same
  · exact operandEnds word rest c h token joins

/-- An operand ends at a connective that joins it. -/
theorem ends_operand_of_connective {c : Connective} (h : r.rest = word :: rest)
    (token : Token.ofWord word = .connective c) : Ends (.operand c.tier) r := by
  refine ends_of_cons h ?_
  intro d tokenFound
  obtain rfl := Token.connective.inj (token.symm.trans tokenFound)
  exact Phrase.not_joins_operand c

/-- An expression ends exactly where no connective follows. -/
theorem ends_expression_iff :
    Ends .expression r ↔
      ∀ (word : String) (c : Connective),
        r.rest[0]? = some word → Token.ofWord word ≠ .connective c := by
  constructor
  · intro ends word c first token
    obtain ⟨rest, next⟩ : ∃ rest, r.rest = word :: rest := by
      rw [← List.head?_eq_getElem?, List.head?_eq_some_iff] at first
      exact first
    exact ends word rest c next token trivial
  · intro none word rest c next token _
    exact none word c (by rw [next]; rfl) token

/-- A word either is a connective of the tier, or is none. -/
theorem connective_or_other (tier : Tier) (word : String) :
    (∃ c, Token.ofWord word = .connective c ∧ c.tier = tier) ∨
      ∀ c, Token.ofWord word = .connective c → c.tier ≠ tier := by
  by_cases joins : ∃ c, Token.ofWord word = .connective c ∧ c.tier = tier
  · exact .inl joins
  · refine .inr ?_
    intro c token same
    exact joins ⟨c, token, same⟩

end

end Reader

namespace Progress

variable {bound large : Nat}

/-- The formula or the fault, and where the reader stands after it. -/
def result : Progress bound → Except SyntaxError Formula × Reader
  | .read formula after _ => (.ok formula, after)
  | .failed error after => (.error error, after)

@[simp] theorem result_weaken (h : bound ≤ large) (p : Progress bound) :
    (p.weaken h).result = p.result := by
  cases p <;> rfl

theorem result_eq_ok_iff {p : Progress bound} {formula : Formula} {after : Reader} :
    p.result = (.ok formula, after) ↔ ∃ shorter, p = .read formula after shorter := by
  cases p with
  | read other stop shorter =>
    simp only [result, Prod.mk.injEq, Except.ok.injEq, read.injEq]
    constructor
    · rintro ⟨rfl, rfl⟩
      exact ⟨shorter, rfl, rfl⟩
    · rintro ⟨_, rfl, rfl⟩
      exact ⟨rfl, rfl⟩
  | failed error stop => simp [result]

end Progress

end Propositional
