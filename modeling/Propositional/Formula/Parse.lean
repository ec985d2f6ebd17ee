import Propositional.Formula.Basic
import Propositional.Formula.Reader
import Propositional.SyntaxError
import Propositional.Text.Words

set_option autoImplicit false

/-!
# Reading expressions

An expression is a chain of terms joined by comparisons, a term a chain of factors
joined by logical connectives, and both chains group to the left.  A factor is a
truth value, a name, the negation of a factor, or an expression in parentheses.

Every connective that follows an operand commits to one more, so an expression ends
at the first word behind an operand that is no connective.  From there on the words
are left alone, and only reported.
-/

namespace Propositional

/-- What came of reading a part of an expression with fewer than `bound` words to
remain behind it. -/
inductive Progress (bound : Nat) where
  /-- The part was read, and the reader has moved on. -/
  | read (formula : Formula) (after : Reader) (shorter : after.size < bound)
  /-- The part could not be read; the reader stands behind the word at fault, or at
  the end. -/
  | failed (error : SyntaxError) (after : Reader)

namespace Progress

/-- Allows for more words to remain. -/
def weaken {small large : Nat} (h : small ≤ large) : Progress small → Progress large
  | .read formula after shorter => .read formula after (Nat.lt_of_lt_of_le shorter h)
  | .failed error after => .failed error after

end Progress

/-- How far the grammar still descends below a chain of the tier. -/
@[simp] def Tier.depth : Tier → Nat
  | .comparison => 3
  | .logical => 1

namespace Reader

/-- Takes the closing parenthesis behind the formula `inner`. -/
def close (inner : Formula) (r : Reader) : Progress r.size :=
  match next : r.rest with
  | [] => .failed (.unclosedParenthesis none) r
  | word :: rest =>
    if Token.ofWord word = .closing then .read inner (r.pass word rest) (size_pass next)
    else .failed (.unclosedParenthesis (some word)) (r.pass word rest)

mutual

/-- A chain of operands joined by connectives of one tier. -/
def chain (tier : Tier) (r : Reader) : Progress r.size :=
  match operand tier r with
  | .failed error after => .failed error after
  | .read left after shorter => (extend tier left after).weaken shorter
termination_by (r.size, tier.depth + 1)

/-- An operand of a connective of the tier. -/
def operand (tier : Tier) (r : Reader) : Progress r.size :=
  match tier with
  | .comparison => chain .logical r
  | .logical => factor r
termination_by (r.size, tier.depth)

/-- The formula `left`, joined to the operands that connectives of the tier add to it. -/
def extend (tier : Tier) (left : Formula) (r : Reader) : Progress (r.size + 1) :=
  match next : r.rest with
  | [] => .read left r (Nat.lt_succ_self _)
  | word :: rest =>
    have shorter : (r.pass word rest).size < r.size := size_pass next
    match Token.ofWord word with
    | .connective c =>
      if c.tier = tier then
        match operand tier (r.pass word rest) with
        | .failed error after => .failed error after
        | .read right after _ =>
          (extend tier (.binary c left right) after).weaken (by omega)
      else .read left r (Nat.lt_succ_self _)
    | _ => .read left r (Nat.lt_succ_self _)
termination_by (r.size, 0)

/-- A factor: a truth value, a name, a negation, or an expression in parentheses. -/
def factor (r : Reader) : Progress r.size :=
  match next : r.rest with
  | [] => .failed .unexpectedEnd r
  | word :: rest =>
    have shorter : (r.pass word rest).size < r.size := size_pass next
    match Token.ofWord word with
    | .literal value => .read (.const value) (r.pass word rest) shorter
    | .name x => .read (.var x) (r.pass word rest) shorter
    | .not =>
      match factor (r.pass word rest) with
      | .failed error after => .failed error after
      | .read operand after _ => .read (.not operand) after (by omega)
    | .opening =>
      match chain .comparison (r.pass word rest) with
      | .failed error after => .failed error after
      | .read inner after _ => (close inner after).weaken (by omega)
    | .connective _ | .closing | .unknown _ =>
      .failed (.unexpectedToken word) (r.pass word rest)
termination_by (r.size, 0)

end

end Reader

/-! ## Whole expressions -/

/-- What came of reading a list of words as an expression. -/
structure Parse where
  /-- The formula, or what is wrong. -/
  outcome : Except SyntaxError Formula
  /-- How many words were taken. -/
  taken : Nat
  /-- What was reported, in order. -/
  events : List Event

namespace Parse

/-- Reports the words that an expression leaves over, if there are any. -/
def leftover : List String → List Event
  | [] => []
  | first :: rest => [.ignored (rest.length + 1) first]

/-- Reads an expression from the beginning of a list of words. -/
def ofWords (tokens : List String) : Parse :=
  match Reader.chain .comparison (Reader.start tokens) with
  | .read formula after _ =>
    ⟨.ok formula, after.taken, after.events.toList ++ leftover after.rest⟩
  | .failed error after => ⟨.error error, after.taken, after.events.toList⟩

/-- Reads an expression from the beginning of a text. -/
def ofText (text : String) : Parse := ofWords (Text.words text)

end Parse

/-- The formula that a text begins with, or why it begins with none. -/
def Formula.ofText (text : String) : Except SyntaxError Formula := (Parse.ofText text).outcome

end Propositional
