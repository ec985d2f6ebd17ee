import Propositional.Assignment
import Propositional.Connective

set_option autoImplicit false

/-!
# Formulas

Formulas over named variables: their value, the names they mention, and the parts
of a binary one.
-/

namespace Propositional

/-- A propositional formula. -/
inductive Formula where
  /-- A variable. -/
  | var (name : String)
  /-- A truth value. -/
  | const (value : Bool)
  /-- A negation. -/
  | not (operand : Formula)
  /-- Two formulas joined by a connective. -/
  | binary (c : Connective) (left right : Formula)
  deriving DecidableEq, Repr, Inhabited

namespace Formula

/-! ## Value -/

/-- The value when each name has the value that `valuation` gives it. -/
def eval (valuation : String → Bool) : Formula → Bool
  | .var name => valuation name
  | .const value => value
  | .not operand => !operand.eval valuation
  | .binary c left right => c.apply (left.eval valuation) (right.eval valuation)

/-- The value under an assignment; a name it leaves out is false. -/
def value (f : Formula) (a : Assignment) : Bool := f.eval a.value

/-! ## Names -/

/-- The names of the leaves from left to right, each as often as it stands there. -/
def leaves : Formula → List String
  | .var name => [name]
  | .const _ => []
  | .not operand => operand.leaves
  | .binary _ left right => left.leaves ++ right.leaves

/-- Puts a name into its place in a list of rising names, unless it is there. -/
def insertName (name : String) : List String → List String
  | [] => [name]
  | other :: rest =>
    if name < other then name :: other :: rest
    else if name = other then other :: rest
    else other :: insertName name rest

/-- The distinct names of a formula in the order of their code points. -/
def names (f : Formula) : List String := f.leaves.foldr insertName []

theorem mem_insertName {name x : String} {list : List String} :
    x ∈ insertName name list ↔ x = name ∨ x ∈ list := by
  induction list with
  | nil => simp [insertName]
  | cons other rest ih =>
    rw [insertName]
    split
    · simp
    · split
      · rename_i same
        subst same
        simp
      · simp only [List.mem_cons, ih]
        exact or_left_comm

theorem pairwise_insertName {name : String} {list : List String}
    (h : list.Pairwise (· < ·)) : (insertName name list).Pairwise (· < ·) := by
  induction list with
  | nil => exact List.pairwise_singleton _ _
  | cons other rest ih =>
    obtain ⟨above, tail⟩ := List.pairwise_cons.1 h
    rw [insertName]
    split
    · rename_i less
      refine List.pairwise_cons.2 ⟨fun x hx => ?_, h⟩
      rcases List.mem_cons.1 hx with rfl | hx
      · exact less
      · exact String.lt_trans less (above x hx)
    · rename_i notLess
      split
      · exact h
      · rename_i different
        refine List.pairwise_cons.2 ⟨fun x hx => ?_, ih tail⟩
        rcases mem_insertName.1 hx with rfl | hx
        · exact Std.lt_of_le_of_ne (String.not_lt.1 notLess) (Ne.symm different)
        · exact above x hx

theorem mem_names {f : Formula} {x : String} : x ∈ f.names ↔ x ∈ f.leaves := by
  unfold names
  induction f.leaves with
  | nil => simp
  | cons name rest ih => simp [mem_insertName, ih]

/-- The names come in strictly rising order, hence each once. -/
theorem pairwise_names (f : Formula) : f.names.Pairwise (· < ·) := by
  unfold names
  induction f.leaves with
  | nil => exact .nil
  | cons name rest ih => exact pairwise_insertName ih

/-! ## Parts -/

/-- The connective and the operands of a binary formula. -/
def split? : Formula → Option (Connective × Formula × Formula)
  | .binary c left right => some (c, left, right)
  | .var _ | .const _ | .not _ => none

end Formula

end Propositional
