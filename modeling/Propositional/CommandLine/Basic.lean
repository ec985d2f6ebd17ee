import Propositional.Formula.Parse
import Propositional.Formula.Written
import Propositional.Table.Verdict
import Propositional.Table.Written

set_option autoImplicit false

/-!
# Runs

The program works on one expression, which is among its arguments or on the first line of its
input.  It prints the words of the expression, its structural form, its names and its table, and on
demand what the table says.

How arguments are read is not settled here.  A library does that, and it may also end the run by
itself: it has its own texts for the version, for help and for misuse.  So a run takes the reader of
the arguments as a parameter, and with it whatever exits the reader has of its own.  Two things are
left out.  The log is off, as it is unless the environment asks for it, so that no event is printed;
and of the failures of the input there is only the one that comes of its bytes.
-/

namespace Propositional.CommandLine

/-- What a run leaves behind. -/
structure Exit where
  code : UInt32
  out : String
  err : String
  deriving DecidableEq, Repr

/-- What to work on. -/
structure Options where
  /-- The expression, when it is among the arguments. -/
  expression : Option String
  /-- Whether to say what the table says. -/
  summary : Bool
  deriving DecidableEq, Repr

/-- What the arguments ask for. -/
inductive Request where
  /-- The table of an expression. -/
  | tabulate (o : Options)
  /-- Nothing more: whoever read the arguments has ended the run. -/
  | settled (exit : Exit)
  deriving DecidableEq, Repr

/-! ## Input -/

/-- The first line of the input, with its end if it has one. -/
def firstLine (input : List UInt8) : List UInt8 :=
  input.takeWhile (· != 10) ++ (input.dropWhile (· != 10)).take 1

/-- The expression to work on, unless it has to be read from a line that is no text. -/
def Options.source? (o : Options) (input : List UInt8) : Option String :=
  match o.expression with
  | some expression => some expression
  | none => String.fromUTF8? ⟨(firstLine input).toArray⟩

/-! ## Runs -/

/-- A line of output. -/
def line (s : String) : String := s ++ "\n"

/-- What is printed of the words of an expression. -/
def tokensLine (tokens : List String) : String := line ("Tokens: " ++ Text.quotedList tokens)

/-- What is printed of a formula. -/
def report (f : Formula) : String :=
  line ("Parsed: " ++ f.structural) ++ line ("Variables: " ++ Text.quotedList f.names) ++ f.table

/-- What is printed of a formula on demand. -/
def summaryLine (f : Formula) : String :=
  line ("Expression " ++ f.display ++ " is a " ++ f.verdict.name)

/-- Prints the table of an expression.  What was printed before a fault stays. -/
def printTable (expression : String) (summary : Bool) : Exit :=
  let tokens := Text.words expression
  match (Parse.ofWords tokens).outcome with
  | .error error => ⟨1, tokensLine tokens, line ("Parse error: " ++ error.reason)⟩
  | .ok f => ⟨0, tokensLine tokens ++ report f ++ (if summary then summaryLine f else ""), ""⟩

/-- The run for a request, on an input. -/
def Request.run (input : List UInt8) : Request → Exit
  | .settled exit => exit
  | .tabulate o =>
    match o.source? input with
    | some expression => printTable expression o.summary
    | none =>
      ⟨1, "", line ("Error: failed to read expression from standard input: "
        ++ "stream did not contain valid UTF-8")⟩

/-- The run of the program on its arguments and its input, with that reader of arguments. -/
def runWith (parse : List String → Request) (args : List String) (input : List UInt8) : Exit :=
  (parse args).run input

end Propositional.CommandLine
