import Propositional.Formula.Parse

set_option autoImplicit false

/-!
# Catalogues

A catalogue numbers formulas in the order in which they are first met.  Equal
formulas have one number.
-/

namespace Propositional

/-- The distinct formulas met so far, in order. -/
structure Catalogue where
  formulas : List Formula
  deriving DecidableEq, Repr

namespace Catalogue

/-- Nothing met yet. -/
def empty : Catalogue := ⟨[]⟩

/-- The number of a formula, which is a new one if the formula is new. -/
def enter (c : Catalogue) (f : Formula) : Nat × Catalogue :=
  match c.formulas.idxOf? f with
  | some number => (number, c)
  | none => (c.formulas.length, ⟨c.formulas ++ [f]⟩)

/-- Texts with the numbers of their formulas. -/
structure Sorted where
  /-- For each text the number of its formula, or why it has none. -/
  numbers : List (Except SyntaxError Nat)
  /-- The formulas of all texts. -/
  catalogue : Catalogue
  /-- What was reported in reading the texts. -/
  events : List Event

/-- Reads the texts in turn, and numbers their formulas. -/
def sort (c : Catalogue) : List String → Sorted
  | [] => ⟨[], c, []⟩
  | text :: rest =>
    let parse := Parse.ofText text
    match parse.outcome with
    | .error error =>
      let sorted := sort c rest
      { sorted with
        numbers := .error error :: sorted.numbers
        events := parse.events ++ sorted.events }
    | .ok f =>
      match c.enter f with
      | (number, c) =>
        let sorted := sort c rest
        { sorted with
          numbers := .ok number :: sorted.numbers
          events := parse.events ++ sorted.events }

end Catalogue

end Propositional
