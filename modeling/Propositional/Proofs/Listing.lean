import Mathlib.Data.List.Nodup
import Propositional.Proofs.Rows

set_option autoImplicit false

/-!
# All lists of truth values

A narrow table is the list of all lists of truth values, the first place changing fastest, with
the value of the formula beside each of them.  Nothing in this form speaks of numbers and their
bits, or of assignments: a row is told by its inputs alone.
-/

namespace Propositional

/-! ## Lists of truth values -/

/-- Each list with either value in front of it. -/
def lengthen (lists : List (List Bool)) : List (List Bool) :=
  lists.flatMap fun values => [false :: values, true :: values]

/-- All lists of `n` truth values in order. -/
def allValues : Nat → List (List Bool)
  | 0 => [[]]
  | n + 1 => lengthen (allValues n)

/-- Every number below twice `n` is the double of one below `n`, or the one after it. -/
theorem range_two_mul (n : Nat) :
    List.range (2 * n) = (List.range n).flatMap fun k => [2 * k, 2 * k + 1] := by
  induction n with
  | zero => rfl
  | succ n ih =>
    rw [Nat.mul_succ, List.range_succ, List.range_succ, ih, List.range_succ, List.flatMap_append,
      List.flatMap_singleton, List.append_assoc]
    rfl

theorem bits_succ (n number : Nat) :
    bits (n + 1) number = number.testBit 0 :: bits n (number / 2) := by
  unfold bits
  rw [List.range_succ_eq_map, List.map_cons, List.map_map]
  refine congrArg _ (List.map_congr_left fun j _ => ?_)
  exact Nat.testBit_add_one number j

/-- The bits of the numbers in order are all the lists there are. -/
theorem map_bits_range (n : Nat) : (List.range (2 ^ n)).map (bits n) = allValues n := by
  induction n with
  | zero => rfl
  | succ n ih =>
    have even : ∀ k : Nat, bits (n + 1) (2 * k) = false :: bits n k := by
      intro k
      rw [bits_succ, Nat.testBit_zero, Nat.mul_mod_right, Nat.mul_div_cancel_left k Nat.zero_lt_two]
      rfl
    have odd : ∀ k : Nat, bits (n + 1) (2 * k + 1) = true :: bits n k := by
      intro k
      have low : (2 * k + 1) % 2 = 1 := by omega
      have high : (2 * k + 1) / 2 = k := by omega
      rw [bits_succ, Nat.testBit_zero, low, high]
      rfl
    rw [Nat.pow_succ', range_two_mul, List.map_flatMap, allValues, ← ih, lengthen, List.flatMap_map]
    simp only [List.map_cons, List.map_nil, even, odd]

/-- All lists of `n` truth values are listed, and nothing else. -/
theorem mem_allValues {n : Nat} {values : List Bool} :
    values ∈ allValues n ↔ values.length = n := by
  rw [← map_bits_range, List.mem_map]
  constructor
  · rintro ⟨number, _, rfl⟩
    exact length_bits n number
  · rintro rfl
    obtain ⟨number, below, listed⟩ := exists_bits_eq values
    exact ⟨number, List.mem_range.2 below, listed⟩

/-- Each list of truth values is listed once. -/
theorem nodup_allValues (n : Nat) : (allValues n).Nodup := by
  rw [← map_bits_range]
  refine List.Nodup.map_on ?_ List.nodup_range
  intro i hi k hk same
  exact eq_of_bits_eq (List.mem_range.1 hi) (List.mem_range.1 hk) same

theorem lengthen_cons (values : List Bool) (rest : List (List Bool)) :
    lengthen (values :: rest) = (false :: values) :: (true :: values) :: lengthen rest := rfl

/-- The lists with the value `c` at a place, and this place taken out of them. -/
def withoutPlace (c : Bool) (j : Nat) (lists : List (List Bool)) : List (List Bool) :=
  (lists.filter fun values => values[j]? == some c).map (·.eraseIdx j)

/-- The first place is the one that lengthening adds. -/
theorem withoutPlace_zero_lengthen (c : Bool) (lists : List (List Bool)) :
    withoutPlace c 0 (lengthen lists) = lists := by
  unfold withoutPlace
  induction lists with
  | nil => rfl
  | cons values rest ih => cases c <;> simpa [lengthen_cons] using ih

/-- A later place is there already before lengthening. -/
theorem withoutPlace_succ_lengthen (c : Bool) (j : Nat) (lists : List (List Bool)) :
    withoutPlace c (j + 1) (lengthen lists) = lengthen (withoutPlace c j lists) := by
  unfold withoutPlace
  induction lists with
  | nil => rfl
  | cons values rest ih => by_cases here : values[j]? = some c <;> simp [lengthen_cons, here, ih]

/-- The lists with one value at a place, and without this place, are all the lists that are
shorter by one, in the same order. -/
theorem withoutPlace_allValues (c : Bool) (j : Nat) : ∀ {n : Nat}, j ≤ n →
    withoutPlace c j (allValues (n + 1)) = allValues n := by
  induction j with
  | zero =>
    intro n _
    exact withoutPlace_zero_lengthen c (allValues n)
  | succ j ih =>
    intro n inside
    obtain ⟨n, rfl⟩ := Nat.exists_eq_succ_of_ne_zero (Nat.ne_zero_of_lt inside)
    have shorter := ih (Nat.le_of_succ_le_succ inside)
    calc withoutPlace c (j + 1) (lengthen (allValues (n + 1)))
        = lengthen (withoutPlace c j (allValues (n + 1))) := withoutPlace_succ_lengthen c j _
      _ = lengthen (allValues n) := by rw [shorter]

/-! ## Rows by their inputs -/

/-- The value that a list of values gives a name at the same place; a name that stands nowhere
is false. -/
def valueIn (names : List String) (values : List Bool) (name : String) : Bool :=
  values.getD (names.idxOf name) false

theorem valueIn_getElem {names : List String} (distinct : names.Nodup) {values : List Bool}
    {j : Nat} (h : j < names.length) : valueIn names values names[j] = values.getD j false := by
  rw [valueIn, distinct.idxOf_getElem]

/-- An assignment with a number gives the names the bits of the number. -/
theorem Assignment.value_ofIndex_eq_valueIn {names : List String} (distinct : names.Nodup)
    (index : UInt64) {name : String} (listed : name ∈ names) :
    (ofIndex names index).value name = valueIn names (bits names.length index.toNat) name := by
  obtain ⟨j, inside, rfl⟩ := List.mem_iff_getElem.1 listed
  rw [value_ofIndex_getElem distinct inside, valueIn_getElem distinct, List.getD_eq_getElem?_getD,
    getElem?_bits inside, Option.getD_some]

namespace Formula

/-- The row with these inputs. -/
def rowAt (f : Formula) (values : List Bool) : Row := ⟨values, f.eval (valueIn f.names values)⟩

theorem row_ofIndex_eq_rowAt (f : Formula) (index : UInt64) :
    f.row f.names (Assignment.ofIndex f.names index) =
      f.rowAt (bits f.names.length index.toNat) := by
  have inputs := inputs_row_ofIndex f index
  have result : f.value (Assignment.ofIndex f.names index) =
      f.eval (valueIn f.names (bits f.names.length index.toNat)) := by
    apply eval_congr
    intro x among
    exact Assignment.value_ofIndex_eq_valueIn (nodup_names f) index (mem_names.2 among)
  rw [rowAt, ← result, ← inputs]
  rfl

/-- The rows of a narrow table are those with each list of values for its names. -/
theorem toList_rows {f : Formula} (narrow : f.names.length < 64) :
    f.rows.toList = (allValues f.names.length).map f.rowAt := by
  unfold rows
  rw [Enumeration.toList_overNames, Cursor.remaining_start narrow, ← map_bits_range, List.map_map]
  refine List.map_congr_left fun i among => ?_
  have below : i < 2 ^ f.names.length := List.mem_range.1 among
  rw [row_ofIndex_eq_rowAt, toNat_ofNat_of_lt_two_pow (Nat.le_of_lt narrow) below]
  rfl

end Formula

end Propositional
