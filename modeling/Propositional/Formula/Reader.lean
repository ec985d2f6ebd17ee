import Propositional.Event

set_option autoImplicit false

/-!
# Readers

A reader goes through a list of words from left to right.  It keeps what is left,
how many words it has taken, and an event for every one of them.
-/

namespace Propositional

/-- A place in a list of words, with the record of how it was reached. -/
structure Reader where
  /-- The words still to come. -/
  rest : List String
  /-- How many words were taken. -/
  taken : Nat
  /-- What was reported so far, the oldest first. -/
  events : Array Event
  deriving DecidableEq, Repr

namespace Reader

/-- At the beginning of a list of words. -/
def start (tokens : List String) : Reader where
  rest := tokens
  taken := 0
  events := #[.reading tokens.length]

/-- The number of words still to come. -/
def size (r : Reader) : Nat := r.rest.length

/-- Takes `word`, which leaves `rest`, and reports it with what it stands for. -/
def pass (r : Reader) (word : String) (rest : List String) : Reader where
  rest := rest
  taken := r.taken + 1
  events := r.events.push (.taken (r.taken + 1) word (.ofWord word))

@[simp] theorem rest_pass (r : Reader) (word : String) (rest : List String) :
    (r.pass word rest).rest = rest := rfl

@[simp] theorem taken_pass (r : Reader) (word : String) (rest : List String) :
    (r.pass word rest).taken = r.taken + 1 := rfl

/-- Taking the next word leaves one word less. -/
theorem size_pass {r : Reader} {word : String} {rest : List String} (h : r.rest = word :: rest) :
    (r.pass word rest).size < r.size := by
  simp [size, h]

end Reader

end Propositional
