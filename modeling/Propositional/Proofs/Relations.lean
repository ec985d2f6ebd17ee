import Mathlib.Data.Finset.Card
import Propositional.Proofs.Verdicts

set_option autoImplicit false

/-!
# Relations between two formulas

Two formulas joined by a connective have one table over the names of both.  Neither is looked
at over its own columns there, and yet the verdict on the whole is about each of them under all
assignments: whether they are equivalent, whether one entails the other, and whether one
excludes the other.
-/

namespace Propositional

namespace Formula

/-! ## The relations -/

/-- The formulas have the same value under every assignment. -/
def Equivalent (s t : Formula) : Prop := ∀ a : Assignment, s.value a = t.value a

/-- The second formula is true under every assignment that makes the first one true. -/
def Entails (s t : Formula) : Prop := ∀ a : Assignment, s.value a = true → t.value a = true

/-- No assignment makes both formulas true. -/
def Excludes (s t : Formula) : Prop :=
  ¬ ∃ a : Assignment, s.value a = true ∧ t.value a = true

variable {s t : Formula}

theorem equivalent_iff :
    s.Equivalent t ↔ ∀ a : Assignment, s.value a = true ↔ t.value a = true :=
  forall_congr' fun _ => Bool.eq_iff_iff

theorem excludes_iff :
    s.Excludes t ↔ ∀ a : Assignment, ¬ (s.value a = true ∧ t.value a = true) :=
  not_exists

/-! ## Tables of joined formulas -/

/-- Both ways of asking whether every row is true are answered by the statement. -/
structure TautologyIff (f : Formula) (p : Prop) : Prop where
  verdict : f.verdict = .tautology ↔ p
  isTautology : f.isTautology = true ↔ p

/-- Both ways of asking whether every row is false are answered by the statement. -/
structure ContradictionIff (f : Formula) (p : Prop) : Prop where
  verdict : f.verdict = .contradiction ↔ p
  isContradiction : f.isContradiction = true ↔ p

/-- The table of joined formulas has a column for each name that either of them has. -/
theorem length_names_binary (c : Connective) (s t : Formula) :
    (binary c s t).names.length = (s.names.toFinset ∪ t.names.toFinset).card := by
  have columns : (binary c s t).names.toFinset = s.names.toFinset ∪ t.names.toFinset := by
    ext x
    rw [Finset.mem_union, List.mem_toFinset, List.mem_toFinset, List.mem_toFinset, mem_names,
      mem_names, mem_names]
    exact List.mem_append
  rw [← columns, List.toFinset_card_of_nodup (nodup_names _)]

/-- The results of a narrow table of joined formulas are the same just when the connective
makes the same of their values under all assignments. -/
theorem forall_results_binary_iff (narrow : (s.names.toFinset ∪ t.names.toFinset).card ≤ 63)
    (c : Connective) (b : Bool) :
    (∀ result ∈ (binary c s t).rows.toList.map Row.result, result = b) ↔
      ∀ a : Assignment, c.apply (s.value a) (t.value a) = b := by
  rw [← length_names_binary c] at narrow
  exact forall_results_iff (Nat.lt_succ_of_le narrow)

/-- Every row is true if the connective relates the two formulas under all assignments. -/
theorem tautologyIff_binary (narrow : (s.names.toFinset ∪ t.names.toFinset).card ≤ 63)
    (c : Connective) {p : Prop}
    (same : p ↔ ∀ a : Assignment, c.Relates (s.value a = true) (t.value a = true)) :
    (binary c s t).TautologyIff p := by
  have rows := forall_results_binary_iff narrow c true
  simp only [Connective.apply_eq_true_iff, ← same] at rows
  exact ⟨verdict_eq_iff_fits.trans rows, isTautology_iff_fits.trans rows⟩

/-- Every row is false if the connective relates the two formulas under no assignment. -/
theorem contradictionIff_binary (narrow : (s.names.toFinset ∪ t.names.toFinset).card ≤ 63)
    (c : Connective) {p : Prop}
    (same : p ↔ ∀ a : Assignment, ¬ c.Relates (s.value a = true) (t.value a = true)) :
    (binary c s t).ContradictionIff p := by
  have rows := forall_results_binary_iff narrow c false
  simp only [Connective.apply_eq_false_iff, ← same] at rows
  exact ⟨verdict_eq_iff_fits.trans rows, isContradiction_iff_fits.trans rows⟩

/-- An exclusive disjunction fails just where its two sides are equivalent. -/
theorem not_xor_iff {p q : Prop} : ¬ Connective.xor.Relates p q ↔ (p ↔ q) := by
  unfold Connective.Relates
  by_cases hp : p <;> by_cases hq : q <;> simp [hp, hq]

/-- Over at most 63 names together, the table of two formulas joined by a connective decides
whether they are equivalent, whether the first entails the second, and whether they exclude
each other. -/
theorem tables_decide_relations (s t : Formula)
    (narrow : (s.names.toFinset ∪ t.names.toFinset).card ≤ 63) :
    (binary .equal s t).TautologyIff (s.Equivalent t) ∧
    (binary .imply s t).TautologyIff (s.Entails t) ∧
    (binary .and s t).ContradictionIff (s.Excludes t) ∧
    (binary .xor s t).ContradictionIff (s.Equivalent t) ∧
    (binary .notEqual s t).ContradictionIff (s.Equivalent t) := by
  refine ⟨?_, ?_, ?_, ?_, ?_⟩
  · exact tautologyIff_binary narrow .equal equivalent_iff
  · exact tautologyIff_binary narrow .imply Iff.rfl
  · exact contradictionIff_binary narrow .and excludes_iff
  · refine contradictionIff_binary narrow .xor ?_
    simp only [equivalent_iff, not_xor_iff]
  · refine contradictionIff_binary narrow .notEqual ?_
    simp only [equivalent_iff, Connective.Relates, not_not]

/-- A conjunction entails a disjunction that has one of its names and another one. -/
theorem tables_decide_relations_weakening :
    ((binary .and (.var "p") (.var "q")).names.toFinset ∪
        (binary .or (.var "p") (.var "r")).names.toFinset).card ≤ 63 ∧
      (binary .imply (.binary .and (.var "p") (.var "q"))
        (.binary .or (.var "p") (.var "r"))).verdict = .tautology ∧
      (binary .and (.var "p") (.var "q")).Entails (binary .or (.var "p") (.var "r")) := by
  have narrow : ((binary .and (.var "p") (.var "q")).names.toFinset ∪
      (binary .or (.var "p") (.var "r")).names.toFinset).card ≤ 63 := by
    decide
  have found : (binary .imply (.binary .and (.var "p") (.var "q"))
      (.binary .or (.var "p") (.var "r"))).verdict = .tautology := by
    decide
  exact ⟨narrow, found, (tables_decide_relations _ _ narrow).2.1.verdict.1 found⟩

end Formula

end Propositional
