import Propositional.Proofs.Verdicts

set_option autoImplicit false

/-!
# Tables with more columns than bits

From 64 names on there are more assignments than numbers of rows.  The rows then run through
the numbers that 64 bits can hold, short of the greatest, and the columns past the bits are
false in all of them.  What a verdict says of such a table it says of the lists of truth
values with a row, so only a contingent formula is known for what it is.
-/

namespace Propositional

/-! ## Lists with a row -/

/-- A list of truth values that is the inputs of a row of a wide table: false past the first
64, and not true in all of these. -/
def Visited (values : List Bool) : Prop :=
  (∀ j : Nat, 64 ≤ j → values[j]? ≠ some true) ∧ ∃ j < 64, values[j]? = some false

/-- Past the first 64 places of a visited list all is false. -/
theorem Visited.getElem?_eq_some_false {values : List Bool} (visited : Visited values) {j : Nat}
    (past : 64 ≤ j) (listed : j < values.length) : values[j]? = some false := by
  have here : values[j]? = some values[j] := List.getElem?_eq_getElem listed
  rw [here, Option.some.injEq]
  by_contra unequal
  exact visited.1 j past (here.trans (congrArg some (Bool.eq_true_of_not_eq_false unequal)))

/-- The bits of a number of 64 bits are visited, unless the number is the greatest. -/
theorem visited_bits_iff {n i : Nat} (wide : 64 ≤ n) (fits : i < 2 ^ 64) :
    Visited (bits n i) ↔ i ≠ 2 ^ 64 - 1 := by
  constructor
  · rintro ⟨_, j, inside, here⟩ rfl
    rw [getElem?_bits (Nat.lt_of_lt_of_le inside wide), Nat.testBit_two_pow_sub_one,
      decide_eq_true inside] at here
    cases here
  · intro notGreatest
    constructor
    · intro j past here
      by_cases listed : j < n
      · rw [getElem?_bits listed, testBit_eq_false_of_wide fits past] at here
        cases here
      · rw [List.getElem?_eq_none (by rw [length_bits]; exact Nat.le_of_not_lt listed)] at here
        cases here
    · by_contra none
      refine notGreatest (eq_of_bits_eq (n := 64) fits (Nat.sub_lt (by decide) (by decide)) ?_)
      refine List.map_congr_left fun j listed => ?_
      have inside : j < 64 := List.mem_range.1 listed
      rw [Nat.testBit_two_pow_sub_one, decide_eq_true inside]
      by_contra unset
      refine none ⟨j, inside, ?_⟩
      rw [getElem?_bits (Nat.lt_of_lt_of_le inside wide), Bool.eq_false_of_not_eq_true unset]

/-- What is visited are the bits of the number of a row. -/
theorem exists_bits_of_visited {n : Nat} {values : List Bool} (length : values.length = n)
    (wide : 64 ≤ n) (visited : Visited values) : ∃ i < 2 ^ 64 - 1, bits n i = values := by
  have front : (values.take 64).length = 64 := List.length_take_of_le (length ▸ wide)
  obtain ⟨i, ⟨fits, low⟩, _⟩ := existsUnique_bits_eq front
  have all : bits n i = values := by
    apply List.ext_getElem?
    intro j
    by_cases listed : j < n
    · rw [getElem?_bits listed]
      by_cases inside : j < 64
      · rw [← getElem?_bits inside, low, List.getElem?_take_of_lt inside]
      · have past : 64 ≤ j := Nat.le_of_not_lt inside
        rw [testBit_eq_false_of_wide fits past,
          visited.getElem?_eq_some_false past (length ▸ listed)]
    · rw [List.getElem?_eq_none (by rw [length_bits]; exact Nat.le_of_not_lt listed),
        List.getElem?_eq_none (by rw [length]; exact Nat.le_of_not_lt listed)]
  rw [← all] at visited
  have notGreatest : i ≠ 2 ^ 64 - 1 := (visited_bits_iff wide fits).1 visited
  exact ⟨i, by omega, all⟩

/-- The rows of a wide table: one for each number that 64 bits can hold, short of the
greatest. -/
structure Saturates (f : Formula) (rows : List Row) : Prop where
  length_eq : rows.length = 2 ^ 64 - 1
  /-- The inputs of a row are the bits of its number, as far as these go. -/
  inputs : ∀ (i : Nat) (row : Row), rows[i]? = some row →
    row.inputs.length = f.names.length ∧
      ∀ j < f.names.length, row.inputs[j]? = some (if j < 64 then i.testBit j else false)
  /-- The result is true just when the formula holds of names with these values. -/
  result : ∀ (i : Nat) (row : Row), rows[i]? = some row → ∀ holds : String → Prop,
    (∀ (j : Nat) (x : String) (b : Bool),
      f.names[j]? = some x → row.inputs[j]? = some b → (b = true ↔ holds x)) →
    (row.result = true ↔ f.Holds holds)
  visited : ∀ row ∈ rows, Visited row.inputs
  /-- Each list that is visited at all is the inputs of one row. -/
  once : ∀ values : List Bool, values.length = f.names.length → Visited values →
    ∃! i : Nat, ∃ row : Row, rows[i]? = some row ∧ row.inputs = values

/-- The verdict on a formula that has the same value wherever it was looked at. -/
def Verdict.ofConstant : Bool → Verdict
  | true => .tautology
  | false => .contradiction

namespace Formula

/-- The formula has that value for all such lists of values of its names. -/
def ConstantOn (f : Formula) (lists : List Bool → Prop) (b : Bool) : Prop :=
  ∀ a : Assignment, lists (f.names.map a.value) → f.value a = b

variable {f : Formula}

/-! ## Rows -/

/-- The rows of a wide table, by their numbers. -/
theorem getElem?_rows_of_wide (wide : 64 ≤ f.names.length) {i : Nat} {row : Row} :
    f.rows.toList[i]? = some row ↔
      i < 2 ^ 64 - 1 ∧
        row = f.row f.names (Assignment.ofIndex f.names (UInt64.ofNat i)) := by
  rw [getElem?_rows_iff, ← Cursor.remaining_start_of_wide wide]
  rfl

/-- The inputs of the row at a place of a wide table are the bits of that place. -/
theorem inputs_of_getElem?_of_wide (wide : 64 ≤ f.names.length) {i : Nat} {row : Row}
    (h : f.rows.toList[i]? = some row) : row.inputs = bits f.names.length i ∧ i < 2 ^ 64 - 1 := by
  obtain ⟨below, rfl⟩ := (getElem?_rows_of_wide wide).1 h
  refine ⟨?_, below⟩
  rw [inputs_row_ofIndex, UInt64.toNat_ofNat']
  exact congrArg (bits f.names.length) (Nat.mod_eq_of_lt (by omega))

/-- A list of values of the names is visited just when a row has it. -/
theorem exists_row_iff_visited (wide : 64 ≤ f.names.length) {values : List Bool}
    (length : values.length = f.names.length) :
    (∃ row ∈ f.rows.toList, row.inputs = values) ↔ Visited values := by
  constructor
  · rintro ⟨row, among, rfl⟩
    obtain ⟨i, here⟩ := List.mem_iff_getElem?.1 among
    obtain ⟨inputs, below⟩ := inputs_of_getElem?_of_wide wide here
    rw [inputs]
    exact (visited_bits_iff wide (by omega)).2 (by omega)
  · intro visited
    obtain ⟨i, below, rfl⟩ := exists_bits_of_visited length wide visited
    have here := (getElem?_rows_of_wide wide).2 ⟨below, rfl⟩
    exact ⟨_, List.mem_of_getElem? here, (inputs_of_getElem?_of_wide wide here).1⟩

/-- Each visited list is the inputs of exactly one row. -/
theorem existsUnique_row_of_visited (wide : 64 ≤ f.names.length) {values : List Bool}
    (length : values.length = f.names.length) (visited : Visited values) :
    ∃! i : Nat, ∃ row : Row, f.rows.toList[i]? = some row ∧ row.inputs = values := by
  obtain ⟨row, among, same⟩ := (exists_row_iff_visited wide length).2 visited
  obtain ⟨i, here⟩ := List.mem_iff_getElem?.1 among
  refine ⟨i, ⟨row, here, same⟩, ?_⟩
  rintro k ⟨other, there, alike⟩
  obtain ⟨inputs, below⟩ := inputs_of_getElem?_of_wide wide here
  obtain ⟨inputs', below'⟩ := inputs_of_getElem?_of_wide wide there
  have enough : (2 : Nat) ^ 64 ≤ 2 ^ f.names.length := Nat.pow_le_pow_right Nat.zero_lt_two wide
  refine eq_of_bits_eq (n := f.names.length) (by omega) (by omega) ?_
  rw [← inputs, ← inputs', alike, same]

/-- Asking a wide table for rows until there are none gives as many as 64 bits allow for. -/
theorem saturates_rows (wide : 64 ≤ f.names.length) : Saturates f f.rows.toList where
  length_eq := by
    rw [Enumeration.length_toList]
    exact Cursor.remaining_start_of_wide wide
  inputs := by
    intro i row here
    obtain ⟨inputs, below⟩ := inputs_of_getElem?_of_wide wide here
    rw [inputs]
    refine ⟨length_bits _ _, ?_⟩
    intro j listed
    rw [getElem?_bits listed]
    by_cases inside : j < 64
    · rw [if_pos inside]
    · rw [if_neg inside, testBit_eq_false_of_wide (by omega) (Nat.le_of_not_lt inside)]
  result := by
    intro i row here holds agree
    obtain ⟨_, rfl⟩ := getElem?_rows_iff.1 here
    exact result_row_iff_holds agree
  visited := by
    intro row among
    obtain ⟨i, here⟩ := List.mem_iff_getElem?.1 among
    obtain ⟨inputs, _⟩ := inputs_of_getElem?_of_wide wide here
    exact (exists_row_iff_visited wide (by rw [inputs, length_bits])).1 ⟨row, among, rfl⟩
  once := by
    intro values length visited
    exact existsUnique_row_of_visited wide length visited

/-- After `k` requests, the cursor over a wide table stands at the number `k`, or at the
limit. -/
theorem toNat_next_drop_rows (wide : 64 ≤ f.names.length) (k : Nat) :
    (f.rows.drop k).cursor.next.toNat = min k (2 ^ 64 - 1) := by
  have limit : (Cursor.start f.names.length).limit.toNat = 2 ^ 64 - 1 :=
    Cursor.remaining_start_of_wide wide
  have moved := Cursor.toNat_next_drop k (Cursor.start f.names.length)
  rw [limit] at moved
  have first : (Cursor.start f.names.length).next.toNat = 0 := rfl
  rw [first, Nat.zero_add] at moved
  exact moved

/-! ## Verdicts -/

/-- The results of a wide table are all the same just when the formula is constant on what
is visited. -/
theorem forall_results_iff_constantOn (wide : 64 ≤ f.names.length) {b : Bool} :
    (∀ c ∈ f.rows.toList.map Row.result, c = b) ↔ f.ConstantOn Visited b := by
  constructor
  · intro all a visited
    refine all _ (mem_results_iff_inputs.2 ⟨a, ?_, rfl⟩)
    exact (exists_row_iff_visited wide (List.length_map a.value)).2 visited
  · intro constant c member
    obtain ⟨a, row, rfl⟩ := mem_results_iff_inputs.1 member
    exact constant a ((exists_row_iff_visited wide (List.length_map a.value)).1 row)

/-- A wide table is found constant just when the formula is so on what is visited. -/
theorem verdict_eq_ofConstant_iff (wide : 64 ≤ f.names.length) (b : Bool) :
    f.verdict = .ofConstant b ↔ f.ConstantOn Visited b := by
  rw [← forall_results_iff_constantOn wide]
  cases b with
  | true => exact verdict_eq_iff_fits
  | false => exact verdict_eq_iff_fits

/-- What is constant on the lists of one kind is so on all just when it is on the others. -/
theorem ConstantOn.forall_iff {lists : List Bool → Prop} {b : Bool}
    (constant : f.ConstantOn lists b) :
    (∀ a : Assignment, f.value a = b) ↔ f.ConstantOn (fun values => ¬ lists values) b := by
  constructor
  · intro all a _
    exact all a
  · intro others a
    by_cases here : lists (f.names.map a.value)
    · exact constant a here
    · exact others a here

/-! ## Conjunctions -/

/-- All the names are true. -/
def conjunction : List String → Formula
  | [] => .const true
  | name :: rest => .binary .and (.var name) (conjunction rest)

theorem leaves_conjunction (names : List String) : (conjunction names).leaves = names := by
  induction names with
  | nil => rfl
  | cons name rest ih => rw [conjunction, leaves, leaves, ih, List.singleton_append]

theorem eval_conjunction (names : List String) (valuation : String → Bool) :
    (conjunction names).eval valuation = names.all valuation := by
  induction names with
  | nil => rfl
  | cons name rest ih =>
    rw [conjunction, eval, eval, ih, List.all_cons]
    rfl

/-- A conjunction is false on all that is visited, since one of its names is. -/
theorem constantOn_visited_conjunction (names : List String) :
    (conjunction names).ConstantOn Visited false := by
  rintro a ⟨_, j, _, here⟩
  obtain ⟨x, among, unset⟩ := List.mem_map.1 (List.mem_of_getElem? here)
  rw [mem_names, leaves_conjunction] at among
  rw [value, eval_conjunction, List.all_eq_false]
  refine ⟨x, among, ?_⟩
  rw [unset]
  exact Bool.false_ne_true

/-- The names `a`, `aa`, `aaa` and so on, up to 64 letters. -/
def lengthening : List String :=
  (List.range 64).map fun k => String.ofList (List.replicate (k + 1) 'a')

theorem nodup_lengthening : lengthening.Nodup := by
  refine List.pairwise_map.2 (List.nodup_range.imp ?_)
  intro k l different same
  have length : (List.replicate (k + 1) 'a').length = (List.replicate (l + 1) 'a').length := by
    rw [String.ofList_injective same]
  rw [List.length_replicate, List.length_replicate] at length
  exact different (Nat.succ.inj length)

/-- A formula has as many names as leaves if no name stands at two of them. -/
theorem length_names_of_nodup (distinct : f.leaves.Nodup) : f.names.length = f.leaves.length :=
  ((List.perm_ext_iff_of_nodup (nodup_names f) distinct).2 fun _ => mem_names).length_eq

/-! ## Wide tables -/

/-- From 64 names on, a table has as many rows as 64 bits can number, short of the greatest
number, and the cursor stops there without ever starting over.  A contingent verdict on it
is right of all assignments.  Any other says that the formula has that value on what was
visited, and is right of all assignments just when the formula has it on the rest as
well. -/
theorem rows_saturate (f : Formula) (wide : 64 ≤ f.names.length) :
    (∃ rows : List Row, f.rows.Yields rows ∧ Saturates f rows) ∧
    (∀ k : Nat, (f.rows.drop k).cursor.next.toNat = min k (2 ^ 64 - 1)) ∧
    (f.verdict = .contingent → ∃ a b : Assignment, f.value a ≠ f.value b) ∧
    ∀ b : Bool,
      (f.verdict = .ofConstant b ↔ f.ConstantOn Visited b) ∧
      (f.verdict = .ofConstant b →
        ((∀ a : Assignment, f.value a = b) ↔
          f.ConstantOn (fun values => ¬ Visited values) b)) := by
  refine ⟨⟨f.rows.toList, f.rows.yields_toList, saturates_rows wide⟩,
    toNat_next_drop_rows wide, exists_value_ne_of_contingent, ?_⟩
  intro b
  have found := verdict_eq_ofConstant_iff wide b
  exact ⟨found, fun verdict => (found.1 verdict).forall_iff⟩

/-- The conjunction of 64 names is found to be a contradiction, as the one assignment that
makes it true has the number that is left out. -/
theorem rows_saturate_conjunction :
    64 ≤ (conjunction lengthening).names.length ∧
      (conjunction lengthening).verdict = .contradiction ∧
      ∃ a : Assignment, (conjunction lengthening).value a = true := by
  have leaves : (conjunction lengthening).leaves = lengthening := leaves_conjunction lengthening
  have count : (conjunction lengthening).names.length = 64 := by
    rw [length_names_of_nodup (by rw [leaves]; exact nodup_lengthening), leaves, lengthening,
      List.length_map, List.length_range]
  have wide : 64 ≤ (conjunction lengthening).names.length := Nat.le_of_eq count.symm
  have found : (conjunction lengthening).verdict = .contradiction :=
    ((rows_saturate _ wide).2.2.2 false).1.2 (constantOn_visited_conjunction lengthening)
  refine ⟨wide, found, Assignment.ofIndex (conjunction lengthening).names greatestIndex, ?_⟩
  rw [value, eval_conjunction, List.all_eq_true]
  intro x among
  rw [← leaves, ← mem_names] at among
  obtain ⟨j, listed, rfl⟩ := List.mem_iff_getElem.1 among
  rw [Assignment.value_ofIndex_getElem (nodup_names _) listed]
  have greatest : greatestIndex.toNat = 2 ^ 64 - 1 := rfl
  rw [greatest, Nat.testBit_two_pow_sub_one, decide_eq_true (count ▸ listed)]

end Formula

end Propositional
