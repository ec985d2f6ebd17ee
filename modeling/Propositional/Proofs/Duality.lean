import Propositional.Proofs.Verdicts
import Propositional.Table.Written

set_option autoImplicit false

/-!
# Negated tables

The table of a negation has the rows of the formula with the other result in each.  The searches
for a verdict stop at other rows there, and still find the opposite.
-/

namespace Propositional

/-- The row with the other result. -/
def Row.negated (row : Row) : Row := ⟨row.inputs, !row.result⟩

/-- What the verdict becomes when every result is negated. -/
def Verdict.opposite : Verdict → Verdict
  | .tautology => .contradiction
  | .contradiction => .tautology
  | .contingent => .contingent

/-- The opposite verdict fits the negated results. -/
theorem Verdict.Fits.opposite {results : List Bool} {v : Verdict} (fits : v.Fits results) :
    v.opposite.Fits (results.map Bool.not) := by
  cases v with
  | tautology =>
    refine List.forall_mem_map.2 fun b member => ?_
    rw [fits b member]
    rfl
  | contradiction =>
    refine List.forall_mem_map.2 fun b member => ?_
    rw [fits b member]
    rfl
  | contingent =>
    exact ⟨List.mem_map.2 ⟨false, fits.2, rfl⟩, List.mem_map.2 ⟨true, fits.1, rfl⟩⟩

namespace Formula

/-- A negation has the same columns and as many rows, and each of them has the other result. -/
theorem toList_rows_not (f : Formula) :
    f.not.rows.toList = f.rows.toList.map Row.negated := by
  unfold rows
  rw [Enumeration.toList_overNames, Enumeration.toList_overNames, List.map_map]
  rfl

theorem results_not (f : Formula) :
    f.not.rows.toList.map Row.result = (f.rows.toList.map Row.result).map Bool.not := by
  rw [toList_rows_not, List.map_map, List.map_map]
  rfl

theorem verdict_not (f : Formula) : f.not.verdict = f.verdict.opposite := by
  rw [verdict_eq_iff_fits, results_not]
  exact (verdict_fits f).opposite

theorem isTautology_not (f : Formula) : f.not.isTautology = f.isContradiction := by
  unfold isTautology isContradiction
  rw [Enumeration.all_eq, Enumeration.all_eq, toList_rows_not, List.all_map]
  rfl

theorem isContradiction_not (f : Formula) : f.not.isContradiction = f.isTautology := by
  unfold isTautology isContradiction
  rw [Enumeration.all_eq, Enumeration.all_eq, toList_rows_not, List.all_map]
  refine congrArg (f.rows.toList.all ·) ?_
  funext row
  exact Bool.not_not row.result

/-- However many names a formula has, its negation has the same columns and the same rows in the
same order, each with the other result.  So the one is a tautology where the other is a
contradiction, and both are contingent together. -/
theorem table_not (f : Formula) :
    f.not.names = f.names ∧ f.not.header = f.header ∧
      (∃ rows : List Row, f.rows.Yields rows ∧ f.not.rows.Yields (rows.map Row.negated)) ∧
      f.not.isTautology = f.isContradiction ∧ f.not.isContradiction = f.isTautology ∧
      f.not.verdict = f.verdict.opposite := by
  refine ⟨rfl, rfl, ⟨f.rows.toList, f.rows.yields_toList, ?_⟩, isTautology_not f,
    isContradiction_not f, verdict_not f⟩
  rw [← toList_rows_not]
  exact Enumeration.yields_toList _

end Formula

end Propositional
