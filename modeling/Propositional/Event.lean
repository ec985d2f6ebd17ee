import Propositional.Token

set_option autoImplicit false

/-!
# Events

What the library reports about its work while it answers, each event with its
severity.
-/

namespace Propositional

/-- How much an event matters, the gravest first. -/
inductive Severity where
  | warn
  | debug
  | trace
  deriving DecidableEq, Repr

namespace Severity

/-- The place in the order from the gravest down. -/
def rank : Severity → Nat
  | .warn => 0
  | .debug => 1
  | .trace => 2

/-- The name in capitals. -/
def name : Severity → String
  | .warn => "WARN"
  | .debug => "DEBUG"
  | .trace => "TRACE"

end Severity

/-- Something that happened on the way to an answer. -/
inductive Event where
  /-- A list of so many words is about to be read. -/
  | reading (count : Nat)
  /-- The word at this place, counted from one, was taken for this token. -/
  | taken (place : Nat) (word : String) (token : Token)
  /-- So many words after a complete expression, from this one on, have no effect. -/
  | ignored (count : Nat) (first : String)
  /-- A table was laid out with these columns. -/
  | columns (names : List String)
  /-- So many names have more assignments than can be numbered. -/
  | unlistable (count : Nat)
  deriving DecidableEq, Repr

namespace Event

/-- How much an event matters. -/
def severity : Event → Severity
  | .taken .. => .trace
  | .reading _ | .columns _ => .debug
  | .ignored .. | .unlistable _ => .warn

/-- The wording of an event. -/
def message : Event → String
  | .reading count => "parsing " ++ toString count ++ " tokens"
  | .taken place word token =>
    "token #" ++ toString place ++ ": " ++ Text.quoted word ++ " -> " ++ token.structural
  | .ignored count first =>
    "ignoring " ++ toString count ++ " trailing token(s) starting at " ++ Text.quoted first
  | .columns names => "variables: " ++ Text.quotedList names
  | .unlistable count =>
    toString count ++ " variables cannot be fully enumerated, stopping after "
      ++ toString (UInt64.size - 1) ++ " rows"

/-- The event matters at least as much as `least`. -/
def reaches (least : Severity) (e : Event) : Bool := decide (e.severity.rank ≤ least.rank)

end Event

end Propositional
