import Propositional.Proofs.Dependence
import Propositional.Proofs.Listing
import Propositional.Proofs.Substitution

set_option autoImplicit false

/-!
# Cofactors

A constant in place of a variable takes its column out of the table, together with the rows that
have the other value there.  What is left of the rows is in the order it was in.
-/

namespace Propositional

/-! ## Columns -/

/-- Without the value at a place, the names that are left keep theirs. -/
theorem valueIn_eraseIdx {names : List String} (distinct : names.Nodup) (values : List Bool)
    {j : Nat} {name : String} (kept : name ∈ names.eraseIdx j) :
    valueIn (names.eraseIdx j) (values.eraseIdx j) name = valueIn names values name := by
  have fewer : (names.eraseIdx j).Nodup := distinct.sublist (List.eraseIdx_sublist names j)
  obtain ⟨i, inside, rfl⟩ := List.mem_iff_getElem.1 kept
  rw [valueIn_getElem fewer, List.getD_eq_getElem?_getD, List.getElem?_eraseIdx]
  by_cases before : i < j
  · rw [if_pos before, List.getElem_eraseIdx_of_lt inside before, valueIn_getElem distinct,
      List.getD_eq_getElem?_getD]
  · rw [if_neg before, List.getElem_eraseIdx_of_ge inside (Nat.le_of_not_lt before),
      valueIn_getElem distinct, List.getD_eq_getElem?_getD]

namespace Formula

variable {f : Formula} {x : String} {c : Bool}

/-- A constant in place of a variable leaves the other variables. -/
theorem mem_leaves_subst_const {y : String} :
    y ∈ (f.subst x (.const c)).leaves ↔ y ∈ f.leaves ∧ y ≠ x := by
  unfold subst
  rw [leaves_bind, List.mem_flatMap]
  constructor
  · rintro ⟨name, among, member⟩
    by_cases same : name = x
    · rw [if_pos same] at member
      cases member
    · rw [if_neg same] at member
      obtain rfl := List.mem_singleton.1 member
      exact ⟨among, same⟩
  · rintro ⟨among, other⟩
    refine ⟨y, among, ?_⟩
    rw [if_neg other]
    exact List.mem_singleton_self y

/-- A constant in place of a variable takes the name out of the list. -/
theorem names_subst_const {j : Nat} (inside : j < f.names.length) (c : Bool) :
    (f.subst f.names[j] (.const c)).names = f.names.eraseIdx j := by
  refine names_eq_of_pairwise ((pairwise_names f).sublist (List.eraseIdx_sublist _ j)) ?_
  intro y
  rw [mem_leaves_subst_const, ← mem_names, List.mem_eraseIdx_iff_getElem]
  constructor
  · rintro ⟨i, listed, other, rfl⟩
    refine ⟨List.getElem_mem listed, ?_⟩
    intro same
    exact other ((nodup_names f).getElem_inj_iff.1 same)
  · rintro ⟨among, other⟩
    obtain ⟨i, listed, rfl⟩ := List.mem_iff_getElem.1 among
    refine ⟨i, listed, ?_, rfl⟩
    rintro rfl
    exact other rfl

/-- With a constant in place of a variable, a formula has the value that it has when the
variable has that of the constant. -/
theorem eval_subst_const (f : Formula) (x : String) (c : Bool) (valuation : String → Bool) :
    (f.subst x (.const c)).eval valuation =
      f.eval fun name => if name = x then c else valuation name := by
  unfold subst
  rw [eval_bind]
  congr 1
  funext name
  by_cases same : name = x
  · rw [if_pos same, if_pos same]
    rfl
  · rw [if_neg same, if_neg same]
    rfl

/-- A row with the value of the constant in its column is a row of the cofactor, without the
column. -/
theorem rowAt_subst_const {j : Nat} (inside : j < f.names.length) {values : List Bool}
    (here : values[j]? = some c) :
    (f.subst f.names[j] (.const c)).rowAt (values.eraseIdx j) =
      ⟨values.eraseIdx j, (f.rowAt values).result⟩ := by
  unfold rowAt
  rw [names_subst_const inside, eval_subst_const, Row.mk.injEq]
  refine ⟨rfl, eval_congr ?_⟩
  intro y among
  by_cases same : y = f.names[j]
  · rw [if_pos same, same, valueIn_getElem (nodup_names f), List.getD_eq_getElem?_getD, here,
      Option.getD_some]
  · rw [if_neg same]
    refine valueIn_eraseIdx (nodup_names f) values ?_
    rw [← names_subst_const inside c, mem_names]
    exact mem_leaves_subst_const.2 ⟨among, same⟩

/-- The rows of a cofactor of a narrow table. -/
theorem toList_rows_subst_const (narrow : f.names.length < 64) {j : Nat}
    (inside : j < f.names.length) (c : Bool) :
    (f.subst f.names[j] (.const c)).rows.toList =
      (f.rows.toList.filter fun row => row.inputs[j]? == some c).map fun row =>
        ⟨row.inputs.eraseIdx j, row.result⟩ := by
  have names := names_subst_const inside c
  have length : (f.subst f.names[j] (.const c)).names.length = f.names.length - 1 := by
    rw [names, List.length_eraseIdx_of_lt inside]
  have lists : allValues (f.names.length - 1) = withoutPlace c j (allValues f.names.length) := by
    have whole : f.names.length - 1 + 1 = f.names.length := by omega
    rw [← withoutPlace_allValues c j (n := f.names.length - 1) (by omega), whole]
  rw [toList_rows (by omega), toList_rows narrow, length, lists, withoutPlace, List.filter_map,
    List.map_map, List.map_map]
  refine List.map_congr_left fun values member => ?_
  have here : values[j]? = some c := beq_iff_eq.1 (List.mem_filter.1 member).2
  exact rowAt_subst_const inside here

/-- A constant in place of a variable takes the column of the variable out of the table, and the
rows with the other value in it, and keeps all other columns and rows as they were. -/
theorem rows_cofactor (f : Formula) (narrow : f.names.length ≤ 63) (j : Nat)
    (inside : j < f.names.length) (c : Bool) :
    (f.subst f.names[j] (.const c)).names = f.names.eraseIdx j ∧
      ∃ rows : List Row, f.rows.Yields rows ∧
        (f.subst f.names[j] (.const c)).rows.Yields
          ((rows.filter fun row => row.inputs[j]? == some c).map fun row =>
            ⟨row.inputs.eraseIdx j, row.result⟩) := by
  refine ⟨names_subst_const inside c, f.rows.toList, f.rows.yields_toList, ?_⟩
  rw [← toList_rows_subst_const (Nat.lt_succ_of_le narrow) inside c]
  exact Enumeration.yields_toList _

/-- With its second variable false, an implication from `p` to `q` is the negation of `p`. -/
theorem rows_cofactor_imply :
    (binary .imply (.var "p") (.var "q")).names.length ≤ 63 ∧
      1 < (binary .imply (.var "p") (.var "q")).names.length ∧
      (binary .imply (.var "p") (.const false)).names = ["p"] ∧
      ∃ rows : List Row, (binary .imply (.var "p") (.var "q")).rows.Yields rows ∧
        (binary .imply (.var "p") (.const false)).rows.Yields
          ((rows.filter fun row => row.inputs[1]? == some false).map fun row =>
            ⟨row.inputs.eraseIdx 1, row.result⟩) := by
  have narrow : (binary .imply (.var "p") (.var "q")).names.length ≤ 63 := by decide
  have inside : 1 < (binary .imply (.var "p") (.var "q")).names.length := by decide
  exact ⟨narrow, inside, rows_cofactor _ narrow 1 inside false⟩

end Formula

end Propositional
