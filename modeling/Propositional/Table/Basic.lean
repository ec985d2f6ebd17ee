import Propositional.Enumeration
import Propositional.Event
import Propositional.Formula.Basic

set_option autoImplicit false

/-!
# Truth tables

The table of a formula has a column for each of its names and a row for each
assignment of them, in the order of the assignments' numbers.  Rows are worked out
when they are asked for, so a table may have more of them than could be stored.
-/

namespace Propositional

/-- A row: a value for each column, and the value of the formula for them. -/
structure Row where
  inputs : List Bool
  result : Bool
  deriving DecidableEq, Repr

namespace Formula

/-- The row for an assignment, with a column for each of `names`. -/
def row (f : Formula) (names : List String) (a : Assignment) : Row :=
  ⟨names.map a.value, f.value a⟩

/-- The rows of the table of a formula. -/
def rows (f : Formula) : Enumeration Row :=
  let names := f.names
  .overNames names.length fun index => f.row names (Assignment.ofIndex names index)

/-- The number of rows, when 64 bits can hold it. -/
def rowCount? (f : Formula) : Option UInt64 := Propositional.rowCount? f.names.length

end Formula

namespace Event

/-- What is reported when an enumeration over `n` names begins. -/
def ofEnumeration (n : Nat) : List Event :=
  match rowCount? n with
  | some _ => []
  | none => [.unlistable n]

/-- What is reported when the rows of a formula begin. -/
def ofRows (f : Formula) : List Event := ofEnumeration f.names.length

end Event

end Propositional
