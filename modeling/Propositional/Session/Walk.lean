import Propositional.Enumeration

set_option autoImplicit false

/-!
# Walks

A walk goes through an enumeration by request.  The place it has come to can be kept,
and returned to any number of times.
-/

namespace Propositional

/-- An enumeration as far as it has come, and the place that was kept of it. -/
structure Walk (α : Type) where
  current : Enumeration α
  saved : Option (Enumeration α)

/-- A request to a walk. -/
inductive Move where
  /-- The next items, so many at most. -/
  | next (count : Nat)
  /-- The item after so many others. -/
  | skip (count : Nat)
  /-- How many items are to come. -/
  | count
  /-- Keep the place. -/
  | save
  /-- Go back to the kept place. -/
  | restore
  deriving DecidableEq, Repr

/-- What a walk answers to a request. -/
inductive Found (α : Type) where
  | items (items : List α)
  | item (item? : Option α)
  | remaining (count : Nat)
  | done

namespace Walk

variable {α : Type}

/-- A walk that begins with an enumeration. -/
def start (e : Enumeration α) : Walk α := ⟨e, none⟩

/-- Does what is asked.  Only a return to a place that was never kept is refused. -/
def move? (w : Walk α) : Move → Option (Found α × Walk α)
  | .next count =>
    match w.current.take count with
    | (items, after) => some (.items items, { w with current := after })
  | .skip count =>
    match w.current.skip? count with
    | (item?, after) => some (.item item?, { w with current := after })
  | .count => some (.remaining w.current.remaining, w)
  | .save => some (.done, { w with saved := some w.current })
  | .restore => w.saved.map fun place => (.done, { w with current := place })

end Walk

end Propositional
