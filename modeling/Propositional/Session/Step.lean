import Propositional.Session.Walk
import Propositional.SyntaxError
import Propositional.Table.Verdict

set_option autoImplicit false

/-!
# Steps of a session

What can be asked of a session, and what it can answer.
-/

namespace Propositional.Session

/-- A request to a session.  Formulas are kept on a stack; the two topmost are the
right and the left one of a pair. -/
inductive Step where
  /-- Put a variable on the stack. -/
  | var (name : String)
  /-- Put a truth value on the stack. -/
  | const (value : Bool)
  /-- Negate the topmost formula. -/
  | not
  /-- Join the two topmost formulas by the connective of that name. -/
  | binary (connective : String)
  /-- Put the formula of a text on the stack. -/
  | parse (text : String)
  /-- Put the formula of a list of words on the stack. -/
  | parseWords (tokens : List String)
  /-- Put on the stack what is read from the display of the topmost formula. -/
  | reparse
  /-- Put the topmost formula on the stack once more. -/
  | dup
  /-- Change the two topmost formulas over. -/
  | swap
  /-- Take the topmost formula off the stack. -/
  | drop
  /-- Display the topmost formula. -/
  | display
  /-- Write the topmost formula in its structural form. -/
  | structural
  /-- Name the parts of the topmost formula. -/
  | split
  /-- List the names of the topmost formula. -/
  | names
  /-- Replace the topmost formula by its left and right parts. -/
  | unfold
  /-- Compare the two topmost formulas. -/
  | same
  /-- Give a name a value. -/
  | set (name : String) (value : Bool)
  /-- Take the value of a name away. -/
  | unset (name : String)
  /-- Take the values of all names away. -/
  | clear
  /-- The value of the topmost formula. -/
  | eval
  /-- Lay out the table of the topmost formula. -/
  | layOut
  /-- The text of the table. -/
  | table
  /-- What the table says about its formula. -/
  | verdict
  /-- Whether every row of the table is true. -/
  | isTautology
  /-- Whether every row of the table is false. -/
  | isContradiction
  /-- Go back to the first row of the table. -/
  | rewind
  /-- Go through the rows of the table. -/
  | rows (move : Move)
  /-- Enumerate the assignments over a list of names. -/
  | enumerate (names : List String)
  /-- Go through the assignments. -/
  | assignments (move : Move)
  /-- The assignment of that number. -/
  | assignmentAt (index : UInt64)
  /-- Take over the values of the next assignment. -/
  | adopt
  /-- None of the requests above. -/
  | unknown
  deriving DecidableEq, Repr

/-- Why a request is not met. -/
inductive Refusal where
  /-- There are too few formulas on the stack. -/
  | emptyStack
  /-- No table was laid out yet. -/
  | noTable
  /-- No assignments were enumerated yet. -/
  | noAssignments
  /-- No place was kept to go back to. -/
  | nothingSaved
  /-- No connective has that name. -/
  | unknownConnective
  /-- The request has no meaning. -/
  | unknownStep
  deriving DecidableEq, Repr

/-- The wording of a refusal. -/
def Refusal.message : Refusal → String
  | .emptyStack => "stack is empty"
  | .noTable => "no table"
  | .noAssignments => "no assignments"
  | .nothingSaved => "nothing saved"
  | .unknownConnective => "unknown operator"
  | .unknownStep => "unknown step"

/-- What a session answers to a request that it meets. -/
inductive Answer where
  /-- There is nothing to say. -/
  | done
  | text (text : String)
  | truth (value : Bool)
  | number (count : Nat)
  | names (names : List String)
  /-- The name of a connective, if there is one. -/
  | connective (c? : Option Connective)
  /-- The parts of a formula, if it has two. -/
  | parts (parts? : Option (Connective × Formula × Formula))
  /-- What was to be read is no expression. -/
  | failure (error : SyntaxError)
  /-- The values of the names. -/
  | environment (a : Assignment)
  /-- The columns of a table, and the line above its rows. -/
  | layout (names : List String) (header : String)
  | verdict (verdict : Verdict)
  | rows (found : Found Row)
  /-- The number of assignments, when it can be held. -/
  | rowCount (count? : Option UInt64)
  | assignments (found : Found Assignment)
  /-- A single assignment, if there is one. -/
  | assignment (a? : Option Assignment)

end Propositional.Session
