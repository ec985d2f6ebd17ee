import Mathlib.Algebra.BigOperators.Fin
import Mathlib.Algebra.BigOperators.Ring.Finset
import Propositional.Proofs.Numbering

set_option autoImplicit false

/-!
# Numbers as codes of assignments

A number of 64 bits encodes an assignment over any list of names.  A name has the bit at the last
place where it stands, and none is ever set past the width of the number.  Over at most 64
distinct names the lowest bits of the number and the assignment determine each other.
-/

namespace Propositional

namespace Assignment

variable {names : List String} {name : String} {index : UInt64} {a b : Assignment}

/-! ## Names with values -/

/-- The assignment gives values to the names of the list and to no others. -/
def Over (a : Assignment) (names : List String) : Prop := ∀ name : String, name ∈ a ↔ name ∈ names

theorem getElem?_eq_some_value (h : name ∈ a) : a[name]? = some (a.value name) :=
  Std.ExtTreeMap.getElem?_eq_some_getD h

/-- Assignments over the same names are equal if these have the same values. -/
theorem Over.eq_of_value_eq (ha : a.Over names) (hb : b.Over names)
    (same : ∀ name ∈ names, a.value name = b.value name) : a = b := by
  apply Std.ExtTreeMap.ext_getElem?
  intro name
  by_cases listed : name ∈ names
  · rw [getElem?_eq_some_value ((ha name).2 listed), getElem?_eq_some_value ((hb name).2 listed),
      same name listed]
  · rw [Std.ExtTreeMap.getElem?_eq_none (fun h => listed ((ha name).1 h)),
      Std.ExtTreeMap.getElem?_eq_none (fun h => listed ((hb name).1 h))]

theorem mem_ofBits (names : List String) (place : Nat) (a : Assignment) :
    name ∈ ofBits index place names a ↔ name ∈ names ∨ name ∈ a := by
  induction names generalizing place a with
  | nil => simp [ofBits]
  | cons other rest ih =>
    rw [ofBits, ih, Std.ExtTreeMap.mem_insert, Std.LawfulEqCmp.compare_eq_iff_eq, List.mem_cons,
      eq_comm]
    exact or_left_comm.trans or_assoc.symm

/-- An assignment with a number gives values to just the names that it is made over. -/
theorem over_ofIndex (names : List String) (index : UInt64) : (ofIndex names index).Over names := by
  intro name
  rw [ofIndex, mem_ofBits]
  exact or_iff_left Std.ExtTreeMap.not_mem_empty

/-- The assignment gives values to the names of the list, and each has the bit that the number
has at its last place. -/
structure Spells (a : Assignment) (names : List String) (number : Nat) : Prop where
  keys : a.Over names
  bit : ∀ (name : String) (p : Nat), LastPlace names name p →
    a[name]? = some (number.testBit p)

theorem spells_ofIndex (names : List String) (index : UInt64) :
    (ofIndex names index).Spells names index.toNat where
  keys := over_ofIndex names index
  bit := by
    intro name p last
    rw [getElem?_eq_some_value ((over_ofIndex names index name).2 last.mem),
      value_ofIndex_of_lastPlace last]

/-! ## Codes over distinct names -/

/-- Numbers with the same lowest bits are those that agree modulo a power of two. -/
theorem bits_eq_iff {n i k : Nat} : bits n i = bits n k ↔ i % 2 ^ n = k % 2 ^ n := by
  have low : ∀ number : Nat, bits n (number % 2 ^ n) = bits n number := by
    intro number
    refine List.map_congr_left fun j listed => ?_
    rw [Nat.testBit_mod_two_pow, decide_eq_true (List.mem_range.1 listed), Bool.true_and]
  have below : ∀ number : Nat, number % 2 ^ n < 2 ^ n := fun number =>
    Nat.mod_lt number (Nat.two_pow_pos n)
  constructor
  · intro same
    refine eq_of_bits_eq (below i) (below k) ?_
    rw [low, low, same]
  · intro same
    rw [← low i, ← low k, same]

/-- The powers of two for the lowest bits of a number add up to what these bits make. -/
theorem sum_testBit (n : Nat) : ∀ number : Nat,
    (∑ j ∈ Finset.range n, if number.testBit j then 2 ^ j else 0) = number % 2 ^ n := by
  induction n with
  | zero =>
    intro number
    exact (Nat.mod_one number).symm
  | succ n ih =>
    intro number
    have double : ∀ j : Nat, (if (number / 2).testBit j then 2 ^ (j + 1) else 0) =
        2 * if (number / 2).testBit j then 2 ^ j else 0 := by
      intro j
      rw [mul_ite, Nat.mul_zero, Nat.pow_succ']
    have lowest : (if number.testBit 0 then 2 ^ 0 else 0) = number % 2 := by
      simp only [Nat.testBit_zero, decide_eq_true_eq]
      split <;> omega
    rw [Finset.sum_range_succ', lowest, Nat.pow_succ', Nat.mod_mul, ← ih (number / 2),
      Finset.mul_sum, Nat.add_comm]
    simp only [Nat.testBit_add_one, double]

/-- The number with a bit for each name of the list that is true. -/
def number (a : Assignment) (names : List String) : Nat :=
  ∑ j : Fin names.length, if a.value names[j] then 2 ^ (j : Nat) else 0

/-- The number of an assignment is the one that has the values of the names as bits. -/
theorem number_eq_of_bits_eq {i : Nat} (below : i < 2 ^ names.length)
    (same : bits names.length i = names.map a.value) : a.number names = i := by
  have values : ∀ j : Fin names.length, a.value names[j] = i.testBit j := by
    intro j
    have entry : (bits names.length i)[(j : Nat)]? = (names.map a.value)[(j : Nat)]? := by
      rw [same]
    rw [getElem?_bits j.isLt, List.getElem?_map, List.getElem?_eq_getElem j.isLt] at entry
    exact (Option.some.inj entry).symm
  unfold number
  simp only [values]
  rw [Fin.sum_univ_eq_sum_range (fun j => if i.testBit j then 2 ^ j else 0), sum_testBit,
    Nat.mod_eq_of_lt below]

/-- Over distinct names, numbers with the same lowest bits encode the same assignment. -/
theorem ofIndex_eq_iff_bits_eq (distinct : names.Nodup) {i k : UInt64} :
    ofIndex names i = ofIndex names k ↔
      bits names.length i.toNat = bits names.length k.toNat := by
  rw [← map_value_ofIndex distinct, ← map_value_ofIndex distinct]
  constructor
  · intro same
    rw [same]
  · intro same
    exact (over_ofIndex names i).eq_of_value_eq (over_ofIndex names k) (List.map_inj_left.1 same)

/-- Every assignment over at most 64 distinct names is encoded by its number, and by no other
that needs no more bits. -/
theorem Over.ofIndex_number (ha : a.Over names) (distinct : names.Nodup)
    (narrow : names.length ≤ 64) :
    ∃ i : UInt64, i.toNat = a.number names ∧ i.toNat < 2 ^ names.length ∧ ofIndex names i = a ∧
      ∀ k : UInt64, k.toNat < 2 ^ names.length → ofIndex names k = a → k = i := by
  obtain ⟨i, ⟨below, same⟩, unique⟩ :=
    existsUnique_bits_eq (n := names.length) (List.length_map a.value)
  have fits : (UInt64.ofNat i).toNat = i := toNat_ofNat_of_lt_two_pow narrow below
  have coded : ofIndex names (UInt64.ofNat i) = a := by
    refine (over_ofIndex names _).eq_of_value_eq ha (List.map_inj_left.1 ?_)
    rw [map_value_ofIndex distinct, fits, same]
  refine ⟨UInt64.ofNat i, ?_, ?_, coded, ?_⟩
  · rw [fits, number_eq_of_bits_eq below same]
  · rw [fits]
    exact below
  · rintro k small rfl
    rw [← UInt64.toNat_inj, fits]
    exact unique k.toNat ⟨small, (map_value_ofIndex distinct k).symm⟩

/-- Over any list of names, a number gives each the bit at its last place, and the shifts that
find the bits are by less than the width.  Over at most 64 distinct names, numbers that agree in
as many bits as there are names encode the same assignment, no others do, and the number of an
assignment is the one with a bit for each name that is true. -/
theorem ofIndex_codec (names : List String) :
    (∀ index : UInt64, (ofIndex names index).Spells names index.toNat ∧
      ∀ (name : String) (p : Nat), LastPlace names name p → 64 ≤ p →
        (ofIndex names index)[name]? = some false) ∧
    (∀ (index : UInt64) (place : Nat) (shifted : UInt64), downTo? index place = some shifted →
      place < 64 ∧ shifted.toNat = index.toNat / 2 ^ place) ∧
    (names.Nodup → names.length ≤ 64 →
      (∀ i k : UInt64, ofIndex names i = ofIndex names k ↔
        i.toNat % 2 ^ names.length = k.toNat % 2 ^ names.length) ∧
      ∀ a : Assignment, a.Over names →
        ∃ i : UInt64, i.toNat = a.number names ∧ i.toNat < 2 ^ names.length ∧
          ofIndex names i = a ∧
          ∀ k : UInt64, k.toNat < 2 ^ names.length → ofIndex names k = a → k = i) := by
  refine ⟨?_, ?_, ?_⟩
  · intro index
    refine ⟨spells_ofIndex names index, ?_⟩
    intro name p last past
    rw [(spells_ofIndex names index).bit name p last,
      testBit_eq_false_of_wide index.toNat_lt past]
  · intro index place shifted moved
    rw [← Nat.shiftRight_eq_div_pow]
    exact toNat_of_downTo? moved
  · intro distinct narrow
    refine ⟨?_, fun a ha => ha.ofIndex_number distinct narrow⟩
    intro i k
    rw [ofIndex_eq_iff_bits_eq distinct, bits_eq_iff]

/-- With `p` at two places, the number 4 makes it true.  Over `p` and `q`, the numbers 6 and 2
encode the same assignment. -/
theorem ofIndex_codec_repeated :
    LastPlace ["p", "q", "p"] "p" 2 ∧ (ofIndex ["p", "q", "p"] 4)["p"]? = some true ∧
      ["p", "q"].Nodup ∧ ["p", "q"].length ≤ 64 ∧ ofIndex ["p", "q"] 6 = ofIndex ["p", "q"] 2 := by
  have last : LastPlace ["p", "q", "p"] "p" 2 :=
    LastPlace.succ_iff.2 (LastPlace.succ_iff.2 (LastPlace.zero_iff.2 ⟨rfl, List.not_mem_nil⟩))
  have distinct : ["p", "q"].Nodup := by decide
  have narrow : ["p", "q"].length ≤ 64 := by decide
  refine ⟨last, ((ofIndex_codec _).1 4).1.bit "p" 2 last, distinct, narrow, ?_⟩
  exact (((ofIndex_codec _).2.2 distinct narrow).1 6 2).2 rfl

end Assignment

end Propositional
