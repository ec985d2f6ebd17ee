import Propositional.CommandLine.Basic

set_option autoImplicit false

/-!
# The command line

A reader of arguments to run the program with, in place of the library that reads them.  It keeps
the conventions: a flag may be given once, as a word or as a letter; one argument may be an
expression; behind `--` any argument is one.  Arguments are read from left to right, and the first
that decides the matter does so: what comes after a fault or a request for the version is not looked
at.  What the library writes of itself about help and misuse is left out, so that these exits have a
code and no text.

No result on runs depends on this reader.  Those that concern arguments are about every reader that
takes them as `ReadsArguments` says.
-/

namespace Propositional.CommandLine

/-- The version was asked for. -/
def version : Request := .settled ⟨0, line "truthtable 0.1.0", ""⟩

/-- Help was asked for.  Its text is left out. -/
def help : Request := .settled ⟨0, "", ""⟩

/-- The arguments are not understood.  What is said about it is left out. -/
def misuse : Request := .settled ⟨2, "", ""⟩

/-- Takes an expression, unless there is one already. -/
def Options.withExpression? (o : Options) (expression : String) : Option Options :=
  match o.expression with
  | none => some { o with expression := some expression }
  | some _ => none

/-- Asks for the summary, unless it was asked for already. -/
def Options.withSummary? (o : Options) : Option Options :=
  if o.summary then none else some { o with summary := true }

/-- Reads arguments none of which is an option. -/
def readOperands (o : Options) : List String → Request
  | [] => .tabulate o
  | arg :: rest =>
    match o.withExpression? arg with
    | some o => readOperands o rest
    | none => misuse

/-- Reads the letters behind a single dash. -/
def readLetters (o : Options) : List Char → Request
  | [] => .tabulate o
  | 's' :: rest =>
    match o.withSummary? with
    | some o => readLetters o rest
    | none => misuse
  | 'V' :: _ => version
  | 'h' :: _ => help
  | _ :: _ => misuse

/-- Reads arguments. -/
def readArguments (o : Options) : List String → Request
  | [] => .tabulate o
  | arg :: rest =>
    if arg = "--" then readOperands o rest
    else if arg = "--version" then version
    else if arg = "--help" then help
    else if arg = "--summary" then
      match o.withSummary? with
      | some o => readArguments o rest
      | none => misuse
    else
      match arg.toList with
      | '-' :: letter :: more =>
        match readLetters o (letter :: more) with
        | .tabulate o => readArguments o rest
        | .settled exit => .settled exit
      | _ =>
        match o.withExpression? arg with
        | some o => readArguments o rest
        | none => misuse

/-- What a list of arguments asks for. -/
def Request.ofArguments (args : List String) : Request := readArguments ⟨none, false⟩ args

/-- The run of the program on its arguments and its input. -/
def run (args : List String) (input : List UInt8) : Exit := runWith Request.ofArguments args input

end Propositional.CommandLine
