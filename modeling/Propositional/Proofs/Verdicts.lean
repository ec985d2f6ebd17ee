import Propositional.Proofs.Rows
import Propositional.Table.Verdict

set_option autoImplicit false

/-!
# What verdicts mean

A verdict is reached by a search that stops at the first row that settles it, and fits
the results of all rows all the same.  Up to 63 names it is about more than rows.  Every
assignment, whether it leaves names of the formula out or gives values to others, agrees
with one of the rows, so the verdict is about all assignments there are.
-/

namespace Propositional

/-! ## Verdicts on the rows -/

/-- What a verdict says of the results of a table. -/
def Verdict.Fits (results : List Bool) : Verdict → Prop
  | .tautology => ∀ b ∈ results, b = true
  | .contradiction => ∀ b ∈ results, b = false
  | .contingent => true ∈ results ∧ false ∈ results

/-- No two verdicts fit the same results, if there are any. -/
theorem Verdict.eq_of_fits {results : List Bool} (nonempty : results ≠ []) {v w : Verdict}
    (hv : v.Fits results) (hw : w.Fits results) : v = w := by
  obtain ⟨first, member⟩ := List.exists_mem_of_ne_nil results nonempty
  cases v with
  | tautology =>
    cases w with
    | tautology => rfl
    | contradiction =>
      exact absurd ((hv first member).symm.trans (hw first member)) Bool.false_ne_true.symm
    | contingent => exact absurd (hv false hw.2) Bool.false_ne_true
  | contradiction =>
    cases w with
    | tautology =>
      exact absurd ((hw first member).symm.trans (hv first member)) Bool.false_ne_true.symm
    | contradiction => rfl
    | contingent => exact absurd (hv true hw.1) Bool.false_ne_true.symm
  | contingent =>
    cases w with
    | tautology => exact absurd (hw false hv.2) Bool.false_ne_true
    | contradiction => exact absurd (hw true hv.1) Bool.false_ne_true.symm
    | contingent => rfl

/-- It only matters which results there are. -/
theorem Verdict.fits_congr {results others : List Bool} (same : ∀ b, b ∈ results ↔ b ∈ others)
    {v : Verdict} : v.Fits results ↔ v.Fits others := by
  cases v with
  | tautology => exact forall_congr' fun b => imp_congr_left (same b)
  | contradiction => exact forall_congr' fun b => imp_congr_left (same b)
  | contingent => exact and_congr (same true) (same false)

/-- Results call for neither of the two other verdicts just when both values are among them. -/
theorem Verdict.fits_contingent_iff {results : List Bool} :
    Verdict.contingent.Fits results ↔
      ¬ Verdict.tautology.Fits results ∧ ¬ Verdict.contradiction.Fits results := by
  constructor
  · rintro ⟨isTrue, isFalse⟩
    refine ⟨?_, ?_⟩
    · intro all
      exact absurd (all false isFalse) Bool.false_ne_true
    · intro all
      exact absurd (all true isTrue) Bool.false_ne_true.symm
  · rintro ⟨notTrue, notFalse⟩
    refine ⟨?_, ?_⟩
    · by_contra missing
      refine notFalse fun b member => ?_
      exact Bool.eq_false_of_not_eq_true (ne_of_mem_of_not_mem member missing)
    · by_contra missing
      refine notTrue fun b member => ?_
      exact Bool.eq_true_of_not_eq_false (ne_of_mem_of_not_mem member missing)

namespace Formula

variable {f : Formula}

theorem toList_rows_ne_nil (f : Formula) : f.rows.toList ≠ [] :=
  Enumeration.toList_overNames_ne_nil _

/-- The search for the verdict has a first row to compare the others with. -/
theorem exists_next?_rows (f : Formula) :
    ∃ (first : Row) (others : Enumeration Row), f.rows.next? = some (first, others) := by
  cases next : f.rows.next? with
  | none => exact absurd (Enumeration.toList_of_next?_eq_none next) (toList_rows_ne_nil f)
  | some pair => exact ⟨pair.1, pair.2, rfl⟩

/-- The search compares all other rows with the first, so its verdict fits them all. -/
theorem verdict_fits (f : Formula) : f.verdict.Fits (f.rows.toList.map Row.result) := by
  obtain ⟨first, others, next⟩ := exists_next?_rows f
  rw [Enumeration.toList_of_next? next, List.map_cons]
  simp only [verdict, next, Enumeration.any_eq]
  by_cases differs : others.toList.any (fun row => row.result != first.result) = true
  · rw [if_pos differs]
    obtain ⟨row, member, other⟩ := List.any_eq_true.1 differs
    have among : row.result ∈ others.toList.map Row.result := List.mem_map_of_mem member
    have unequal : row.result ≠ first.result := bne_iff_ne.1 other
    cases here : first.result with
    | true =>
      rw [here] at unequal
      rw [Bool.eq_false_of_not_eq_true unequal] at among
      exact ⟨List.mem_cons_self, List.mem_cons_of_mem _ among⟩
    | false =>
      rw [here] at unequal
      rw [Bool.eq_true_of_not_eq_false unequal] at among
      exact ⟨List.mem_cons_of_mem _ among, List.mem_cons_self⟩
  · rw [if_neg differs]
    have same : ∀ b ∈ first.result :: others.toList.map Row.result, b = first.result := by
      intro b member
      rcases List.mem_cons.1 member with rfl | member
      · rfl
      · obtain ⟨row, among, rfl⟩ := List.mem_map.1 member
        by_contra other
        exact differs (List.any_eq_true.2 ⟨row, among, bne_iff_ne.2 other⟩)
    cases here : first.result with
    | true =>
      rw [here] at same
      exact same
    | false =>
      rw [here] at same
      exact same

/-- A formula has just the verdict that fits its rows. -/
theorem verdict_eq_iff_fits {v : Verdict} :
    f.verdict = v ↔ v.Fits (f.rows.toList.map Row.result) := by
  constructor
  · rintro rfl
    exact verdict_fits f
  · intro fits
    have nonempty : f.rows.toList.map Row.result ≠ [] := by
      rw [Ne, List.map_eq_nil_iff]
      exact toList_rows_ne_nil f
    exact Verdict.eq_of_fits nonempty (verdict_fits f) fits

/-- Tables with the same results, in whatever order, have the same verdict. -/
theorem verdict_eq_of_mem_results {other : Formula}
    (same : ∀ b, b ∈ f.rows.toList.map Row.result ↔ b ∈ other.rows.toList.map Row.result) :
    f.verdict = other.verdict :=
  verdict_eq_iff_fits.2 ((Verdict.fits_congr same).2 (verdict_fits other))

theorem isTautology_iff_fits :
    f.isTautology = true ↔ Verdict.tautology.Fits (f.rows.toList.map Row.result) := by
  unfold isTautology Verdict.Fits
  rw [Enumeration.all_eq, List.all_eq_true]
  exact (List.forall_mem_map (P := fun b => b = true)).symm

theorem isContradiction_iff_fits :
    f.isContradiction = true ↔ Verdict.contradiction.Fits (f.rows.toList.map Row.result) := by
  unfold isContradiction Verdict.Fits
  rw [Enumeration.all_eq, List.all_eq_true]
  simp only [Bool.not_eq_true']
  exact (List.forall_mem_map (P := fun b => b = false)).symm

theorem verdict_eq_tautology_iff : f.verdict = .tautology ↔ f.isTautology = true :=
  verdict_eq_iff_fits.trans isTautology_iff_fits.symm

theorem verdict_eq_contradiction_iff : f.verdict = .contradiction ↔ f.isContradiction = true :=
  verdict_eq_iff_fits.trans isContradiction_iff_fits.symm

theorem verdict_eq_contingent_iff :
    f.verdict = .contingent ↔ f.isTautology = false ∧ f.isContradiction = false := by
  rw [verdict_eq_iff_fits, Verdict.fits_contingent_iff, ← isTautology_iff_fits,
    ← isContradiction_iff_fits, Bool.not_eq_true, Bool.not_eq_true]

/-- Each of the three searches stops at a row of its own, and starts from the first row again.
Whatever the number of names, they come to what a scan of all rows comes to, and hence agree with
one another; there is a row, so a formula is not called true and false at once. -/
theorem searches_agree (f : Formula) :
    ∃ rows : List Row, f.rows.Yields rows ∧
      (f.verdict = .tautology ↔ f.isTautology = true) ∧
      (f.isTautology = true ↔ ∀ row ∈ rows, row.result = true) ∧
      (f.verdict = .contradiction ↔ f.isContradiction = true) ∧
      (f.isContradiction = true ↔ ∀ row ∈ rows, row.result = false) ∧
      (f.verdict = .contingent ↔ f.isTautology = false ∧ f.isContradiction = false) ∧
      (f.verdict = .contingent ↔
        (∃ row ∈ rows, row.result = true) ∧ ∃ row ∈ rows, row.result = false) ∧
      ¬ (f.isTautology = true ∧ f.isContradiction = true) ∧
      ∃ (first : Row) (others : Enumeration Row), f.rows.next? = some (first, others) := by
  have each : ∀ b : Bool, (∀ c ∈ f.rows.toList.map Row.result, c = b) ↔
      ∀ row ∈ f.rows.toList, row.result = b := fun b => List.forall_mem_map
  refine ⟨f.rows.toList, f.rows.yields_toList, verdict_eq_tautology_iff, ?_,
    verdict_eq_contradiction_iff, ?_, verdict_eq_contingent_iff, ?_, ?_, exists_next?_rows f⟩
  · exact isTautology_iff_fits.trans (each true)
  · exact isContradiction_iff_fits.trans (each false)
  · rw [verdict_eq_iff_fits]
    exact and_congr List.mem_map List.mem_map
  · rintro ⟨allTrue, allFalse⟩
    have same := (verdict_eq_tautology_iff.2 allTrue).symm.trans
      (verdict_eq_contradiction_iff.2 allFalse)
    cases same

/-! ## Verdicts on all assignments -/

/-- A result is the value under an assignment whose values are the inputs of a row. -/
theorem mem_results_iff_inputs {b : Bool} :
    b ∈ f.rows.toList.map Row.result ↔
      ∃ a : Assignment, (∃ row ∈ f.rows.toList, row.inputs = f.names.map a.value) ∧
        f.value a = b := by
  constructor
  · intro member
    obtain ⟨row, among, rfl⟩ := List.mem_map.1 member
    obtain ⟨i, here⟩ := List.mem_iff_getElem?.1 among
    obtain ⟨_, rfl⟩ := getElem?_rows_iff.1 here
    exact ⟨_, ⟨_, among, rfl⟩, rfl⟩
  · rintro ⟨a, ⟨row, among, same⟩, rfl⟩
    obtain ⟨i, here⟩ := List.mem_iff_getElem?.1 among
    obtain ⟨_, rfl⟩ := getElem?_rows_iff.1 here
    have value : f.value (Assignment.ofIndex f.names (UInt64.ofNat i)) = f.value a :=
      value_congr (List.map_inj_left.1 same)
    rw [← value]
    exact List.mem_map_of_mem among

/-- A formula found contingent has both values, whatever the number of its names. -/
theorem exists_value_ne_of_contingent (contingent : f.verdict = .contingent) :
    ∃ a b : Assignment, f.value a ≠ f.value b := by
  obtain ⟨isTrue, isFalse⟩ := verdict_eq_iff_fits.1 contingent
  obtain ⟨a, _, valueTrue⟩ := mem_results_iff_inputs.1 isTrue
  obtain ⟨b, _, valueFalse⟩ := mem_results_iff_inputs.1 isFalse
  refine ⟨a, b, ?_⟩
  rw [valueTrue, valueFalse]
  exact Bool.false_ne_true.symm

/-- Each assignment agrees on the names of a narrow table with one that has a number. -/
theorem exists_index_value_eq (narrow : f.names.length < 64) (a : Assignment) :
    ∃ i < 2 ^ f.names.length,
      f.value (Assignment.ofIndex f.names (UInt64.ofNat i)) = f.value a := by
  obtain ⟨i, ⟨below, listed⟩, _⟩ :=
    existsUnique_bits_eq (n := f.names.length) (List.length_map a.value)
  refine ⟨i, below, value_congr ?_⟩
  have same : f.names.map (Assignment.ofIndex f.names (UInt64.ofNat i)).value =
      f.names.map a.value := by
    rw [Assignment.map_value_ofIndex (nodup_names f), toNat_ofNat_of_lt_two_pow (Nat.le_of_lt narrow) below,
      listed]
  exact List.map_inj_left.1 same

/-- The results of a narrow table are the values under all assignments. -/
theorem mem_results_iff (narrow : f.names.length < 64) {b : Bool} :
    b ∈ f.rows.toList.map Row.result ↔ ∃ a : Assignment, f.value a = b := by
  constructor
  · intro member
    obtain ⟨a, _, value⟩ := mem_results_iff_inputs.1 member
    exact ⟨a, value⟩
  · rintro ⟨a, rfl⟩
    obtain ⟨i, below, same⟩ := exists_index_value_eq narrow a
    have here := (getElem?_rows narrow).2 ⟨below, rfl⟩
    rw [← same]
    exact List.mem_map_of_mem (List.mem_of_getElem? here)

/-- Every result is the same just when every assignment gives that value. -/
theorem forall_results_iff (narrow : f.names.length < 64) {b : Bool} :
    (∀ c ∈ f.rows.toList.map Row.result, c = b) ↔ ∀ a : Assignment, f.value a = b := by
  constructor
  · intro all a
    exact all _ ((mem_results_iff narrow).2 ⟨a, rfl⟩)
  · intro all c member
    obtain ⟨a, value⟩ := (mem_results_iff narrow).1 member
    exact value.symm.trans (all a)

/-- Both values are results just when two assignments give different ones. -/
theorem mixed_results_iff (narrow : f.names.length < 64) :
    true ∈ f.rows.toList.map Row.result ∧ false ∈ f.rows.toList.map Row.result ↔
      ∃ a b : Assignment, f.value a ≠ f.value b := by
  rw [mem_results_iff narrow, mem_results_iff narrow]
  constructor
  · rintro ⟨⟨a, isTrue⟩, b, isFalse⟩
    refine ⟨a, b, ?_⟩
    rw [isTrue, isFalse]
    exact Bool.false_ne_true.symm
  · rintro ⟨a, b, unequal⟩
    cases here : f.value a with
    | true =>
      rw [here] at unequal
      exact ⟨⟨a, here⟩, b, Bool.eq_false_of_not_eq_true (Ne.symm unequal)⟩
    | false =>
      rw [here] at unequal
      exact ⟨⟨b, Bool.eq_true_of_not_eq_false (Ne.symm unequal)⟩, a, here⟩

/-- Up to 63 names, the verdicts are about all assignments, not only about those that
have a row. -/
theorem verdict_exact (f : Formula) (narrow : f.names.length ≤ 63) :
    (f.verdict = .tautology ↔ ∀ a : Assignment, f.value a = true) ∧
    (f.isTautology = true ↔ ∀ a : Assignment, f.value a = true) ∧
    (f.verdict = .contradiction ↔ ∀ a : Assignment, f.value a = false) ∧
    (f.isContradiction = true ↔ ∀ a : Assignment, f.value a = false) ∧
    (f.verdict = .contingent ↔ ∃ a b : Assignment, f.value a ≠ f.value b) := by
  have fits : f.names.length < 64 := Nat.lt_succ_of_le narrow
  refine ⟨?_, ?_, ?_, ?_, ?_⟩
  · exact verdict_eq_iff_fits.trans (forall_results_iff fits)
  · exact isTautology_iff_fits.trans (forall_results_iff fits)
  · exact verdict_eq_iff_fits.trans (forall_results_iff fits)
  · exact isContradiction_iff_fits.trans (forall_results_iff fits)
  · exact verdict_eq_iff_fits.trans (mixed_results_iff fits)

/-- An implication is contingent, and so has different values under two assignments. -/
theorem verdict_exact_imply :
    (binary .imply (.var "p") (.var "q")).names.length ≤ 63 ∧
      (binary .imply (.var "p") (.var "q")).verdict = .contingent ∧
      ∃ a b : Assignment, (binary .imply (.var "p") (.var "q")).value a ≠
        (binary .imply (.var "p") (.var "q")).value b := by
  have narrow : (binary .imply (.var "p") (.var "q")).names.length ≤ 63 := by decide
  have contingent : (binary .imply (.var "p") (.var "q")).verdict = .contingent := by decide
  exact ⟨narrow, contingent, (verdict_exact _ narrow).2.2.2.2.1 contingent⟩

end Formula

end Propositional
