import Propositional.Formula.Parse

set_option autoImplicit false

/-!
# Reading expressions, step by step

One equation for each way in which a chain, its extension or a factor can go on,
given what the next word stands for.  They say all there is to know of the readers of
`Formula/Parse`, which need not be unfolded after this.
-/

namespace Propositional.Reader

variable {r after : Reader} {tier : Tier} {word : String} {rest : List String}

/-! ## Chains -/

theorem chain_of_failed {error : SyntaxError} (first : operand tier r = .failed error after) :
    chain tier r = .failed error after := by
  rw [chain, first]

theorem chain_of_read {left : Formula} {shorter : after.size < r.size}
    (first : operand tier r = .read left after shorter) :
    chain tier r = (extend tier left after).weaken shorter := by
  rw [chain, first]

theorem operand_comparison : operand .comparison r = chain .logical r := by
  rw [operand]

theorem operand_logical : operand .logical r = factor r := by
  rw [operand]

/-! ## Extensions -/

theorem extend_of_nil {left : Formula} (h : r.rest = []) :
    extend tier left r = .read left r (Nat.lt_succ_self _) := by
  rw [extend]
  split
  · rfl
  · rename_i next
    rw [h] at next
    cases next

/-- At a word, an extension goes on by what the word stands for. -/
theorem extend_of_cons {left : Formula} (h : r.rest = word :: rest) :
    extend tier left r =
      match Token.ofWord word with
      | .connective c =>
        if c.tier = tier then
          match operand tier (r.pass word rest) with
          | .failed error after => .failed error after
          | .read right after shorter =>
            (extend tier (.binary c left right) after).weaken
              (Nat.succ_le_succ (Nat.le_of_lt (Nat.lt_trans shorter (size_pass h))))
        else .read left r (Nat.lt_succ_self _)
      | _ => .read left r (Nat.lt_succ_self _) := by
  rw [extend]
  split
  · rename_i next
    rw [h] at next
    cases next
  · rename_i next
    obtain ⟨rfl, rfl⟩ := List.cons.inj (h.symm.trans next)
    rfl

/-- A word that is no connective of the tier ends the chain, and is not taken. -/
theorem extend_of_other {left : Formula} (h : r.rest = word :: rest)
    (other : ∀ c, Token.ofWord word = .connective c → c.tier ≠ tier) :
    extend tier left r = .read left r (Nat.lt_succ_self _) := by
  rw [extend_of_cons h]
  split
  · rename_i c token
    rw [if_neg (other c token)]
  · rfl

theorem extend_of_failed {c : Connective} {left : Formula} {error : SyntaxError}
    (h : r.rest = word :: rest) (token : Token.ofWord word = .connective c)
    (second : operand c.tier (r.pass word rest) = .failed error after) :
    extend c.tier left r = .failed error after := by
  simp only [extend_of_cons h, token, if_true, second]

/-- A connective of the tier joins the formula so far to one more operand. -/
theorem extend_of_read {c : Connective} {left right : Formula} (h : r.rest = word :: rest)
    (token : Token.ofWord word = .connective c) {shorter : after.size < (r.pass word rest).size}
    (second : operand c.tier (r.pass word rest) = .read right after shorter) :
    extend c.tier left r = (extend c.tier (.binary c left right) after).weaken
      (Nat.succ_le_succ (Nat.le_of_lt (Nat.lt_trans shorter (size_pass h)))) := by
  simp only [extend_of_cons h, token, if_true, second]

/-! ## Closing parentheses -/

theorem close_of_nil {inner : Formula} (h : r.rest = []) :
    close inner r = .failed (.unclosedParenthesis none) r := by
  rw [close]
  split
  · rfl
  · rename_i next
    rw [h] at next
    cases next

/-- At a word, only the closing parenthesis will do. -/
theorem close_of_cons {inner : Formula} (h : r.rest = word :: rest) :
    close inner r =
      if Token.ofWord word = .closing then .read inner (r.pass word rest) (size_pass h)
      else .failed (.unclosedParenthesis (some word)) (r.pass word rest) := by
  rw [close]
  split
  · rename_i next
    rw [h] at next
    cases next
  · rename_i next
    obtain ⟨rfl, rfl⟩ := List.cons.inj (h.symm.trans next)
    rfl

/-! ## Factors -/

theorem factor_of_nil (h : r.rest = []) : factor r = .failed .unexpectedEnd r := by
  rw [factor]
  split
  · rfl
  · rename_i next
    rw [h] at next
    cases next

/-- At a word, a factor goes on by what the word stands for. -/
theorem factor_of_cons (h : r.rest = word :: rest) :
    factor r =
      match Token.ofWord word with
      | .literal value => .read (.const value) (r.pass word rest) (size_pass h)
      | .name x => .read (.var x) (r.pass word rest) (size_pass h)
      | .not =>
        match factor (r.pass word rest) with
        | .failed error after => .failed error after
        | .read operand after shorter =>
          .read (.not operand) after (Nat.lt_trans shorter (size_pass h))
      | .opening =>
        match chain .comparison (r.pass word rest) with
        | .failed error after => .failed error after
        | .read inner after shorter =>
          (close inner after).weaken (Nat.le_of_lt (Nat.lt_trans shorter (size_pass h)))
      | .connective _ | .closing | .unknown _ =>
        .failed (.unexpectedToken word) (r.pass word rest) := by
  rw [factor]
  split
  · rename_i next
    rw [h] at next
    cases next
  · rename_i next
    obtain ⟨rfl, rfl⟩ := List.cons.inj (h.symm.trans next)
    rfl

theorem factor_of_not_read {operand : Formula} (h : r.rest = word :: rest)
    (token : Token.ofWord word = .not) {shorter : after.size < (r.pass word rest).size}
    (inner : factor (r.pass word rest) = .read operand after shorter) :
    factor r = .read (.not operand) after (Nat.lt_trans shorter (size_pass h)) := by
  simp only [factor_of_cons h, token, inner]

theorem factor_of_opening_read {inner : Formula} (h : r.rest = word :: rest)
    (token : Token.ofWord word = .opening) {shorter : after.size < (r.pass word rest).size}
    (inside : chain .comparison (r.pass word rest) = .read inner after shorter) :
    factor r = (close inner after).weaken
      (Nat.le_of_lt (Nat.lt_trans shorter (size_pass h))) := by
  simp only [factor_of_cons h, token, inside]

end Propositional.Reader
