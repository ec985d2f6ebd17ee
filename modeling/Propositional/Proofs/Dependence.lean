import Mathlib.Data.List.Sort
import Propositional.Proofs.ByteOrder
import Propositional.Proofs.Truth

set_option autoImplicit false

/-!
# What the value of a formula depends on

The names of a formula are found by one walk over it, and its value by another.  Both come to
the same leaves, so the names tell all that has to be known about an assignment.
-/

namespace Propositional

namespace Formula

/-- The name stands at a leaf of the formula. -/
inductive Mentions (x : String) : Formula → Prop where
  | var : Mentions x (.var x)
  | not {operand : Formula} (inside : Mentions x operand) : Mentions x (.not operand)
  | left {c : Connective} {left right : Formula} (inside : Mentions x left) :
      Mentions x (.binary c left right)
  | right {c : Connective} {left right : Formula} (inside : Mentions x right) :
      Mentions x (.binary c left right)

theorem mem_leaves_of_mentions {f : Formula} {x : String} (h : f.Mentions x) : x ∈ f.leaves := by
  induction h with
  | var => exact List.mem_singleton_self x
  | not _ ih => exact ih
  | left _ ih => exact List.mem_append_left _ ih
  | right _ ih => exact List.mem_append_right _ ih

theorem mentions_of_mem_leaves {f : Formula} {x : String} (h : x ∈ f.leaves) : f.Mentions x := by
  induction f with
  | var name =>
    obtain rfl := List.mem_singleton.1 h
    exact .var
  | const value => cases h
  | not operand ih => exact .not (ih h)
  | binary c left right ihLeft ihRight =>
    rcases List.mem_append.1 h with first | second
    · exact .left (ihLeft first)
    · exact .right (ihRight second)

/-- The names are those that stand at a leaf. -/
theorem mem_names_iff_mentions {f : Formula} {x : String} : x ∈ f.names ↔ f.Mentions x := by
  rw [mem_names]
  exact ⟨mentions_of_mem_leaves, mem_leaves_of_mentions⟩

/-- The names of a formula are the rising list of the names of its leaves. -/
theorem names_eq_of_pairwise {f : Formula} {list : List String} (rising : list.Pairwise (· < ·))
    (same : ∀ y, y ∈ list ↔ y ∈ f.leaves) : f.names = list := by
  refine (pairwise_names f).eq_of_mem_iff rising ?_
  intro y
  rw [mem_names, same]

/-- The names rise in the order of their bytes. -/
theorem pairwise_bytes_names (f : Formula) :
    f.names.Pairwise fun x y => Text.bytes x < Text.bytes y := by
  refine (pairwise_names f).imp ?_
  intro x y less
  exact Text.bytes_lt_bytes_iff.2 less

/-- The names of a formula are those at its leaves, each once and in the order of their bytes.
Two assignments that give each of them the same value, where one that is left out counts as false,
give the formula the same value, whatever they say of other names. -/
theorem names_determine_value (f : Formula) :
    (f.names.Pairwise fun x y => Text.bytes x < Text.bytes y) ∧
    (∀ x : String, x ∈ f.names ↔ f.Mentions x) ∧
    ∀ a b : Assignment, (∀ x ∈ f.names, a[x]?.getD false = b[x]?.getD false) →
      f.value a = f.value b := by
  refine ⟨pairwise_bytes_names f, fun x => mem_names_iff_mentions, ?_⟩
  intro a b agree
  refine value_congr ?_
  intro x among
  rw [Assignment.value_eq_getElem?_getD, Assignment.value_eq_getElem?_getD]
  exact agree x among

/-- An implication has the same value with its second name left out and a third one true as
with its second name false. -/
theorem names_determine_value_imply :
    let a : Assignment := .ofList [("p", true), ("r", true)]
    let b : Assignment := .ofList [("p", true), ("q", false)]
    a ≠ b ∧
      (∀ x ∈ (binary .imply (.var "p") (.var "q")).names,
        a[x]?.getD false = b[x]?.getD false) ∧
      (binary .imply (.var "p") (.var "q")).value a =
        (binary .imply (.var "p") (.var "q")).value b := by
  intro a b
  have differ : a ≠ b := by decide
  have agree : ∀ x ∈ (binary .imply (.var "p") (.var "q")).names,
      a[x]?.getD false = b[x]?.getD false := by
    decide
  exact ⟨differ, agree, (names_determine_value _).2.2 a b agree⟩

end Formula

end Propositional
