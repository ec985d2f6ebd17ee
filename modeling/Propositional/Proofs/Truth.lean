import Propositional.Formula.Basic

set_option autoImplicit false

/-!
# Truth

What a formula says, as a statement about the names it mentions.  The value of a formula
decides whether the statement is true, and depends on the names of the leaves only.
-/

namespace Propositional

/-- What a connective says of two statements. -/
def Connective.Relates : Connective → Prop → Prop → Prop
  | .and, p, q => p ∧ q
  | .or, p, q => p ∨ q
  | .xor, p, q => (p ∧ ¬ q) ∨ (¬ p ∧ q)
  | .imply, p, q => p → q
  | .equal, p, q => p ↔ q
  | .notEqual, p, q => ¬ (p ↔ q)

theorem Connective.apply_eq_true_iff (c : Connective) (left right : Bool) :
    c.apply left right = true ↔ c.Relates (left = true) (right = true) := by
  cases c <;> cases left <;> cases right <;> simp [apply, Relates]

theorem Connective.apply_eq_false_iff (c : Connective) (left right : Bool) :
    c.apply left right = false ↔ ¬ c.Relates (left = true) (right = true) := by
  rw [← apply_eq_true_iff, Bool.not_eq_true]

namespace Formula

/-- What a formula says when `holds` tells which names are true. -/
def Holds (holds : String → Prop) : Formula → Prop
  | .var name => holds name
  | .const value => value = true
  | .not operand => ¬ operand.Holds holds
  | .binary c left right => c.Relates (left.Holds holds) (right.Holds holds)

/-- The value is true just when the formula holds, if names of leaves are given the values
that they have. -/
theorem eval_eq_true_iff_holds {f : Formula} {valuation : String → Bool}
    {holds : String → Prop} (agree : ∀ x ∈ f.leaves, valuation x = true ↔ holds x) :
    f.eval valuation = true ↔ f.Holds holds := by
  induction f with
  | var name => exact agree name (List.mem_singleton_self name)
  | const value => exact Iff.rfl
  | not operand ih =>
    have inner := ih agree
    rw [eval, Holds, ← inner]
    cases operand.eval valuation <;> simp
  | binary c left right ihLeft ihRight =>
    have first := ihLeft fun x hx => agree x (List.mem_append_left _ hx)
    have second := ihRight fun x hx => agree x (List.mem_append_right _ hx)
    rw [eval, Holds, Connective.apply_eq_true_iff, propext first, propext second]

/-- Valuations that agree on the leaves give the same value. -/
theorem eval_congr {f : Formula} {valuation other : String → Bool}
    (agree : ∀ x ∈ f.leaves, valuation x = other x) : f.eval valuation = f.eval other := by
  have one : f.eval valuation = true ↔ f.Holds fun x => other x = true := by
    apply eval_eq_true_iff_holds
    intro x hx
    rw [agree x hx]
  have two : f.eval other = true ↔ f.Holds fun x => other x = true := by
    apply eval_eq_true_iff_holds
    intro x _
    exact Iff.rfl
  exact Bool.eq_iff_iff.2 (one.trans two.symm)

/-- Assignments under which every name of the formula has the same value, given or not,
give it the same value. -/
theorem value_congr {f : Formula} {a b : Assignment}
    (agree : ∀ x ∈ f.names, a.value x = b.value x) : f.value a = f.value b := by
  apply eval_congr
  intro x hx
  exact agree x (mem_names.2 hx)

/-- The names of a formula are distinct. -/
theorem nodup_names (f : Formula) : f.names.Nodup := by
  refine (pairwise_names f).imp ?_
  intro x y less same
  subst same
  exact String.lt_irrefl x less

end Formula

end Propositional
