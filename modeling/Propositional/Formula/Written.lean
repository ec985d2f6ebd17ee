import Propositional.Formula.Basic
import Propositional.Text.Quoted

set_option autoImplicit false

/-!
# Written formulas

Two ways to write a formula down.  `display` uses symbols and puts every joined
pair into parentheses; `structural` spells out the tree, with names in quotation
marks, so that nothing in a name can pass for structure.
-/

namespace Propositional.Formula

/-- The formula in symbols. -/
def display : Formula → String
  | .var name => name
  | .const value => toString value
  | .not operand => "¬" ++ operand.display
  | .binary c left right =>
    "(" ++ left.display ++ " " ++ c.symbol ++ " " ++ right.display ++ ")"

/-- The formula as a tree of named nodes. -/
def structural : Formula → String
  | .var name => "Variable(" ++ Text.quoted name ++ ")"
  | .const value => "Constant(" ++ toString value ++ ")"
  | .not operand => "Not(" ++ operand.structural ++ ")"
  | .binary c left right =>
    c.name ++ "(" ++ left.structural ++ ", " ++ right.structural ++ ")"

end Propositional.Formula
