import Propositional.Proofs.Iteration
import Propositional.Proofs.Numbering
import Propositional.Proofs.Truth
import Propositional.Table.Basic

set_option autoImplicit false

/-!
# The rows of a table

A row is found by a detour: its number gives an assignment, and the assignment gives the
inputs and the result.  The detour leaves nothing out.  Up to 63 names, the inputs run
through all lists of truth values, in the order of the numbers they are the bits of, and
the result beside them is what the formula says of them.
-/

namespace Propositional

/-- The rows are those of a truth table for the formula: one for each number that as many
bits as there are names can hold. -/
structure Tabulates (f : Formula) (rows : List Row) : Prop where
  length_eq : rows.length = 2 ^ f.names.length
  /-- The count fits into 64 bits, and is the number of rows. -/
  counted : (rowCount? f.names.length).map UInt64.toNat = some rows.length
  /-- The inputs of a row are the bits of its number. -/
  inputs : ∀ (i : Nat) (row : Row), rows[i]? = some row →
    row.inputs.length = f.names.length ∧
      ∀ j < f.names.length, row.inputs[j]? = some (i.testBit j)
  /-- The result is true just when the formula holds of names with these values. -/
  result : ∀ (i : Nat) (row : Row), rows[i]? = some row → ∀ holds : String → Prop,
    (∀ (j : Nat) (x : String) (b : Bool),
      f.names[j]? = some x → row.inputs[j]? = some b → (b = true ↔ holds x)) →
    (row.result = true ↔ f.Holds holds)
  /-- Each list of truth values is the inputs of one row. -/
  once : ∀ values : List Bool, values.length = f.names.length →
    ∃! i : Nat, ∃ row : Row, rows[i]? = some row ∧ row.inputs = values
  /-- Without names there is one row, and it has no inputs. -/
  alone : f.names = [] → ∃ result, rows = [⟨[], result⟩]

namespace Formula

variable {f : Formula}

/-- The inputs of the row with that number are its bits. -/
theorem inputs_row_ofIndex (f : Formula) (index : UInt64) :
    (f.row f.names (Assignment.ofIndex f.names index)).inputs =
      bits f.names.length index.toNat :=
  Assignment.map_value_ofIndex (nodup_names f) index

/-- The rows of a table, by their numbers. -/
theorem getElem?_rows_iff {i : Nat} {row : Row} :
    f.rows.toList[i]? = some row ↔
      i < f.rows.remaining ∧
        row = f.row f.names (Assignment.ofIndex f.names (UInt64.ofNat i)) := by
  have count : f.rows.remaining = (Cursor.start f.names.length).remaining := rfl
  rw [count]
  unfold rows
  rw [Enumeration.toList_overNames, List.getElem?_map]
  by_cases below : i < (Cursor.start f.names.length).remaining
  · rw [List.getElem?_range below, Option.map_some, Option.some.injEq]
    constructor
    · intro same
      exact ⟨below, same.symm⟩
    · rintro ⟨_, same⟩
      exact same.symm
  · rw [List.getElem?_eq_none (by rw [List.length_range]; exact Nat.le_of_not_lt below)]
    constructor
    · intro none
      cases none
    · rintro ⟨inside, _⟩
      exact absurd inside below

/-- The rows of a table that is narrow enough, by their numbers. -/
theorem getElem?_rows (narrow : f.names.length < 64) {i : Nat} {row : Row} :
    f.rows.toList[i]? = some row ↔
      i < 2 ^ f.names.length ∧
        row = f.row f.names (Assignment.ofIndex f.names (UInt64.ofNat i)) := by
  rw [getElem?_rows_iff, ← Cursor.remaining_start narrow]
  rfl

theorem length_toList_rows (narrow : f.names.length < 64) :
    f.rows.toList.length = 2 ^ f.names.length := by
  rw [Enumeration.length_toList]
  exact Cursor.remaining_start narrow

/-- The inputs of the row at a place of a narrow table are the bits of that place. -/
theorem inputs_of_getElem? (narrow : f.names.length < 64) {i : Nat} {row : Row}
    (h : f.rows.toList[i]? = some row) : row.inputs = bits f.names.length i := by
  obtain ⟨below, rfl⟩ := (getElem?_rows narrow).1 h
  rw [inputs_row_ofIndex, toNat_ofNat_of_lt_two_pow (Nat.le_of_lt narrow) below]

/-- A row at an assignment is true just when the formula holds of names with the values in
its columns. -/
theorem result_row_iff_holds {a : Assignment} {holds : String → Prop}
    (agree : ∀ (j : Nat) (x : String) (b : Bool), f.names[j]? = some x →
      (f.row f.names a).inputs[j]? = some b → (b = true ↔ holds x)) :
    (f.row f.names a).result = true ↔ f.Holds holds := by
  apply eval_eq_true_iff_holds
  intro x hx
  obtain ⟨j, here⟩ := List.mem_iff_getElem?.1 (mem_names.2 hx)
  refine agree j x (a.value x) here ?_
  unfold row
  rw [List.getElem?_map, here]
  rfl

/-- Each list of truth values is the inputs of exactly one row of a narrow table. -/
theorem existsUnique_row (narrow : f.names.length < 64) {values : List Bool}
    (h : values.length = f.names.length) :
    ∃! i : Nat, ∃ row : Row, f.rows.toList[i]? = some row ∧ row.inputs = values := by
  obtain ⟨i, ⟨below, listed⟩, unique⟩ := existsUnique_bits_eq h
  have here := (getElem?_rows narrow).2 ⟨below, rfl⟩
  refine ⟨i, ⟨_, here, (inputs_of_getElem? narrow here).trans listed⟩, ?_⟩
  rintro k ⟨row, there, same⟩
  refine unique k ⟨((getElem?_rows narrow).1 there).1, ?_⟩
  rw [← inputs_of_getElem? narrow there, same]

/-- Asking a table of at most 63 names for rows until there are none gives a complete
truth table. -/
theorem rows_tabulate (f : Formula) (narrow : f.names.length ≤ 63) :
    ∃ rows : List Row, f.rows.Yields rows ∧ Tabulates f rows := by
  have fits : f.names.length < 64 := Nat.lt_succ_of_le narrow
  have length : f.rows.toList.length = 2 ^ f.names.length := by
    rw [Enumeration.length_toList]
    exact Cursor.remaining_start fits
  have counted : (Propositional.rowCount? f.names.length).map UInt64.toNat =
      some f.rows.toList.length := by
    obtain ⟨count, found⟩ : ∃ count, Propositional.rowCount? f.names.length = some count :=
      ⟨_, if_pos fits⟩
    rw [found, Option.map_some, length, toNat_of_rowCount? found]
    rfl
  refine ⟨f.rows.toList, f.rows.yields_toList, length, counted, ?_, ?_, ?_, ?_⟩
  · intro i row here
    rw [inputs_of_getElem? fits here]
    exact ⟨length_bits _ _, fun j inside => getElem?_bits inside⟩
  · intro i row here holds agree
    obtain ⟨_, rfl⟩ := (getElem?_rows fits).1 here
    exact result_row_iff_holds agree
  · intro values size
    exact existsUnique_row fits size
  · intro none
    have one : f.rows.toList.length = 1 := by rw [length, none]; rfl
    obtain ⟨row, alone⟩ := List.length_eq_one_iff.1 one
    have first : f.rows.toList[0]? = some row := by rw [alone]; rfl
    have empty : row.inputs = [] := by
      rw [inputs_of_getElem? fits first, none]
      rfl
    exact ⟨row.result, by rw [alone, ← empty]⟩

/-- The table of an implication. -/
theorem rows_tabulate_imply :
    (binary .imply (.var "p") (.var "q")).names.length ≤ 63 ∧
      ∃ rows : List Row, (binary .imply (.var "p") (.var "q")).rows.Yields rows ∧
        Tabulates (binary .imply (.var "p") (.var "q")) rows := by
  have narrow : (binary .imply (.var "p") (.var "q")).names.length ≤ 63 := by decide
  exact ⟨narrow, rows_tabulate _ narrow⟩

end Formula

end Propositional
