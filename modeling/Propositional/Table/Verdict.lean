import Propositional.Table.Basic

set_option autoImplicit false

/-!
# Verdicts

What the results of a table say about its formula.  No search goes further than
the first row that settles it.
-/

namespace Propositional

/-- What a table says about its formula. -/
inductive Verdict where
  /-- True in every row. -/
  | tautology
  /-- False in every row. -/
  | contradiction
  /-- True in one row and false in another. -/
  | contingent
  deriving DecidableEq, Repr

/-- The name of a verdict. -/
def Verdict.name : Verdict → String
  | .tautology => "tautology"
  | .contradiction => "contradiction"
  | .contingent => "contingent"

namespace Formula

/-- Every row is true. -/
def isTautology (f : Formula) : Bool := f.rows.all fun row => row.result

/-- Every row is false. -/
def isContradiction (f : Formula) : Bool := f.rows.all fun row => !row.result

/-- Compares the other rows with the first. -/
def verdict (f : Formula) : Verdict :=
  match f.rows.next? with
  | none => .contradiction
  | some (first, others) =>
    if others.any fun row => row.result != first.result then .contingent
    else if first.result then .tautology
    else .contradiction

end Formula

end Propositional
