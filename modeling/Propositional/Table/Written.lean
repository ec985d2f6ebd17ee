import Propositional.Formula.Written
import Propositional.Table.Basic
import Propositional.Text.Uppercase

set_option autoImplicit false

/-!
# Written tables

A table is written in lines: the names in upper case, a line of dashes as long, and
the rows.  Columns are separated by bars, and the last one holds the result.
-/

namespace Propositional

/-- A text of lines, each of them ended. -/
def Text.unlines (lines : List String) : String := String.join (lines.map (· ++ "\n"))

/-- A row in digits, with its result spelled out. -/
def Row.display (row : Row) : String :=
  String.join (row.inputs.map fun input => if input then "1 | " else "0 | ")
    ++ toString row.result

namespace Formula

/-- The line above the rows. -/
def header (f : Formula) : String :=
  " | ".intercalate (f.names.map Text.uppercase ++ ["Result"])

/-- The lines of the table. -/
def tableLines (f : Formula) : List String :=
  let header := f.header
  header :: String.ofList (List.replicate header.length '-') :: f.rows.toList.map Row.display

/-- The table. -/
def table (f : Formula) : String := Text.unlines f.tableLines

end Formula

end Propositional
