set_option autoImplicit false

/-!
# Syntax errors

Why a list of words is no expression.
-/

namespace Propositional

/-- What is wrong at the place where reading stops. -/
inductive SyntaxError where
  /-- A word stands where an operand has to begin, and none begins with it. -/
  | unexpectedToken (word : String)
  /-- The words end where an operand has to begin. -/
  | unexpectedEnd
  /-- A parenthesis is open, and behind its expression this word stands, or none,
  instead of the closing one. -/
  | unclosedParenthesis (found : Option String)
  deriving DecidableEq, Repr

namespace SyntaxError

/-- The cause alone. -/
def reason : SyntaxError → String
  | .unexpectedToken word => "unexpected token: " ++ word
  | .unexpectedEnd => "unexpected end of input"
  | .unclosedParenthesis _ => "expected closing parenthesis"

/-- The full message. -/
def message (e : SyntaxError) : String := "invalid expression: " ++ e.reason

end SyntaxError

end Propositional
