set_option autoImplicit false

/-!
# Connectives

The six binary connectives, their truth functions and symbols, and the two tiers
they bind on: a comparison joins whole chains of the logical ones.
-/

namespace Propositional

/-- How tightly a connective binds: the logical ones hold their operands together
inside a comparison. -/
inductive Tier where
  | comparison
  | logical
  deriving DecidableEq, Repr

/-- A binary connective. -/
inductive Connective where
  | and
  | or
  | xor
  | imply
  | equal
  | notEqual
  deriving DecidableEq, Repr

namespace Connective

/-- Every connective, in the order of their definition. -/
def all : List Connective := [.and, .or, .xor, .imply, .equal, .notEqual]

theorem mem_all (c : Connective) : c ∈ all := by
  cases c <;> decide

/-- The tier a connective binds on. -/
def tier : Connective → Tier
  | .and | .or | .xor | .imply => .logical
  | .equal | .notEqual => .comparison

/-- The truth value of two joined ones.  Implication is material, and to differ is
the same as exclusive disjunction. -/
def apply : Connective → Bool → Bool → Bool
  | .and, l, r => l && r
  | .or, l, r => l || r
  | .xor, l, r => l != r
  | .imply, l, r => !l || r
  | .equal, l, r => l == r
  | .notEqual, l, r => l != r

/-- The sign between the operands. -/
def symbol : Connective → String
  | .and => "∧"
  | .or => "∨"
  | .xor => "⊕"
  | .imply => "→"
  | .equal => "="
  | .notEqual => "≠"

/-- The name, as it stands in the structural form of formulas and tokens. -/
def name : Connective → String
  | .and => "And"
  | .or => "Or"
  | .xor => "Xor"
  | .imply => "Imply"
  | .equal => "Equal"
  | .notEqual => "NotEqual"

/-- The connective of that name. -/
def ofName? (s : String) : Option Connective := all.find? fun c => c.name == s

@[simp] theorem ofName?_name (c : Connective) : ofName? c.name = some c := by
  cases c <;> decide

theorem name_injective {c d : Connective} (h : c.name = d.name) : c = d := by
  have found : ofName? c.name = ofName? d.name := congrArg ofName? h
  rw [ofName?_name, ofName?_name] at found
  exact Option.some.inj found

end Connective

namespace Tier

/-- The name of a tier. -/
def name : Tier → String
  | .comparison => "Comparison"
  | .logical => "Logical"

end Tier

end Propositional
