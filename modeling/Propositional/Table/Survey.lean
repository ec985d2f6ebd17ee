import Propositional.Table.Verdict
import Propositional.Table.Written

set_option autoImplicit false

/-!
# Surveys

All there is to show of a table at once.  A table of few columns is shown whole; of
a wider one, only the first rows.
-/

namespace Propositional

/-- The rows of a survey. -/
inductive Survey.Body where
  /-- The first rows of a wide table. -/
  | sample (rows : List Row)
  /-- The whole of a table: its text, the results of its rows, and what they say. -/
  | whole (text : String) (results : List Bool) (verdict : Verdict)
      (isTautology isContradiction : Bool)

/-- What is shown of the table of a formula. -/
structure Survey where
  names : List String
  header : String
  rowCount? : Option UInt64
  display : String
  body : Survey.Body

namespace Survey

/-- The most columns of a table that is shown whole. -/
def widest : Nat := 12

/-- How many rows are shown of a wider table. -/
def sampleSize : Nat := 8

/-- The survey of the table of a formula. -/
def ofFormula (f : Formula) : Survey where
  names := f.names
  header := f.header
  rowCount? := f.rowCount?
  display := f.display
  body :=
    if f.names.length ≤ widest then
      .whole f.table (f.rows.toList.map Row.result) f.verdict f.isTautology f.isContradiction
    else .sample (f.rows.take sampleSize).1

/-- What is reported on the way.  Only a sample is ever taken of a table with more
rows than can be numbered, and it goes through the rows once. -/
def events (f : Formula) : List Event := .columns f.names :: Event.ofRows f

end Survey

end Propositional
