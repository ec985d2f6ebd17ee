import Mathlib.Data.List.Nodup
import Mathlib.Data.Nat.Bitwise
import Propositional.Assignment

set_option autoImplicit false

/-!
# Assignments by their numbers

The lowest bits of a number are a list of truth values, and every list is the bits of
exactly one number below the power of two that its length gives.  The assignment with a number
gives each name the bit at the last place of the name, and so gives distinct names just these
values, in order.
-/

namespace Propositional

/-! ## Bits -/

/-- The lowest `n` bits of a number, the lowest first. -/
def bits (n number : Nat) : List Bool := (List.range n).map number.testBit

@[simp] theorem length_bits (n number : Nat) : (bits n number).length = n := by
  simp [bits]

theorem getElem?_bits {n number j : Nat} (h : j < n) :
    (bits n number)[j]? = some (number.testBit j) := by
  simp [bits, h]

/-- Numbers that need no more bits than are listed are told apart by them. -/
theorem eq_of_bits_eq {n i k : Nat} (hi : i < 2 ^ n) (hk : k < 2 ^ n)
    (same : bits n i = bits n k) : i = k := by
  apply Nat.eq_of_testBit_eq
  intro j
  by_cases inside : j < n
  · have at_j : (bits n i)[j]? = (bits n k)[j]? := by rw [same]
    rw [getElem?_bits inside, getElem?_bits inside] at at_j
    exact Option.some.inj at_j
  · have widen : 2 ^ n ≤ 2 ^ j :=
      Nat.pow_le_pow_right Nat.zero_lt_two (Nat.le_of_not_lt inside)
    rw [Nat.testBit_lt_two_pow (Nat.lt_of_lt_of_le hi widen),
      Nat.testBit_lt_two_pow (Nat.lt_of_lt_of_le hk widen)]

/-- Every list of truth values is the bits of a number. -/
theorem exists_bits_eq (values : List Bool) :
    ∃ number, number < 2 ^ values.length ∧ bits values.length number = values := by
  refine ⟨Nat.ofBits fun j : Fin values.length => values[j], Nat.ofBits_lt_two_pow _, ?_⟩
  apply List.ext_getElem?
  intro j
  by_cases inside : j < values.length
  · rw [getElem?_bits inside, Nat.testBit_ofBits_lt _ _ inside, List.getElem?_eq_getElem inside]
    rfl
  · rw [List.getElem?_eq_none (by rw [length_bits]; exact Nat.le_of_not_lt inside),
      List.getElem?_eq_none (Nat.le_of_not_lt inside)]

/-- Every list of truth values is the bits of exactly one number of its length. -/
theorem existsUnique_bits_eq {n : Nat} {values : List Bool} (h : values.length = n) :
    ∃! number, number < 2 ^ n ∧ bits n number = values := by
  subst h
  obtain ⟨number, below, listed⟩ := exists_bits_eq values
  refine ⟨number, ⟨below, listed⟩, ?_⟩
  rintro other ⟨otherBelow, otherListed⟩
  exact eq_of_bits_eq otherBelow below (otherListed.trans listed.symm)

/-- Numbers of assignments over few enough names fit into 64 bits. -/
theorem toNat_ofNat_of_lt_two_pow {n i : Nat} (narrow : n ≤ 64) (below : i < 2 ^ n) :
    (UInt64.ofNat i).toNat = i := by
  have fits : (2 : Nat) ^ n ≤ 2 ^ 64 := Nat.pow_le_pow_right Nat.zero_lt_two narrow
  rw [UInt64.toNat_ofNat']
  exact Nat.mod_eq_of_lt (Nat.lt_of_lt_of_le below fits)

theorem testBit_eq_false_of_wide {i j : Nat} (fits : i < 2 ^ 64) (past : 64 ≤ j) :
    i.testBit j = false :=
  Nat.testBit_lt_two_pow (Nat.lt_of_lt_of_le fits (Nat.pow_le_pow_right Nat.zero_lt_two past))

/-! ## Last places -/

/-- The last place of a name in a list. -/
def LastPlace (names : List String) (name : String) (p : Nat) : Prop :=
  names[p]? = some name ∧ ∀ q : Nat, p < q → names[q]? ≠ some name

namespace LastPlace

variable {names rest : List String} {name other : String} {p : Nat}

/-- The first name has its last place there if it does not come again. -/
theorem zero_iff : LastPlace (other :: rest) name 0 ↔ other = name ∧ name ∉ rest := by
  constructor
  · rintro ⟨here, last⟩
    refine ⟨Option.some.inj here, ?_⟩
    intro again
    obtain ⟨q, there⟩ := List.mem_iff_getElem?.1 again
    exact last (q + 1) (Nat.zero_lt_succ q) there
  · rintro ⟨rfl, once⟩
    refine ⟨rfl, ?_⟩
    intro q later there
    obtain ⟨q, rfl⟩ := Nat.exists_eq_succ_of_ne_zero (Nat.ne_of_gt later)
    exact once (List.mem_of_getElem? there)

theorem succ_iff : LastPlace (other :: rest) name (p + 1) ↔ LastPlace rest name p := by
  constructor
  · rintro ⟨here, last⟩
    exact ⟨here, fun q later => last (q + 1) (Nat.succ_lt_succ later)⟩
  · rintro ⟨here, last⟩
    refine ⟨here, ?_⟩
    intro q later
    obtain ⟨q, rfl⟩ := Nat.exists_eq_succ_of_ne_zero (Nat.ne_zero_of_lt later)
    exact last q (Nat.lt_of_succ_lt_succ later)

theorem lt_length (h : LastPlace names name p) : p < names.length :=
  (List.getElem?_eq_some_iff.1 h.1).1

theorem mem (h : LastPlace names name p) : name ∈ names := List.mem_of_getElem? h.1

end LastPlace

/-- Each name of a list has a last place there. -/
theorem exists_lastPlace {names : List String} {name : String} (h : name ∈ names) :
    ∃ p, LastPlace names name p := by
  induction names with
  | nil => cases h
  | cons other rest ih =>
    by_cases again : name ∈ rest
    · obtain ⟨p, last⟩ := ih again
      exact ⟨p + 1, LastPlace.succ_iff.2 last⟩
    · rcases List.mem_cons.1 h with rfl | member
      · exact ⟨0, LastPlace.zero_iff.2 ⟨rfl, again⟩⟩
      · exact absurd member again

/-- Among distinct names, each has its last place where it stands. -/
theorem lastPlace_getElem {names : List String} (distinct : names.Nodup) {j : Nat}
    (h : j < names.length) : LastPlace names names[j] j := by
  refine ⟨List.getElem?_eq_getElem h, ?_⟩
  intro q later there
  obtain ⟨inside, same⟩ := List.getElem?_eq_some_iff.1 there
  exact Nat.ne_of_gt later (distinct.getElem_inj_iff.1 same)

/-! ## Values of names -/

namespace Assignment

variable {index : UInt64} {name : String}

/-- Places past those of a name leave its value as it was. -/
theorem value_ofBits_of_not_mem {names : List String} (h : name ∉ names) (place : Nat)
    (a : Assignment) : (ofBits index place names a).value name = a.value name := by
  induction names generalizing place a with
  | nil => rfl
  | cons other rest ih =>
    rw [List.mem_cons, not_or] at h
    obtain ⟨different, absent⟩ := h
    rw [ofBits, ih absent, value_insert, if_neg (Ne.symm different)]

theorem value_ofBits_of_lastPlace {names : List String} {p : Nat}
    (last : LastPlace names name p) (place : Nat) (a : Assignment) :
    (ofBits index place names a).value name = index.toNat.testBit (place + p) := by
  induction names generalizing p place a with
  | nil => cases last.1
  | cons other rest ih =>
    rw [ofBits]
    cases p with
    | zero =>
      obtain ⟨rfl, once⟩ := LastPlace.zero_iff.1 last
      rw [value_ofBits_of_not_mem once, value_insert, if_pos rfl, bitAt_eq_testBit, Nat.add_zero]
    | succ p =>
      rw [ih (LastPlace.succ_iff.1 last), Nat.add_assoc, Nat.add_comm 1 p]

/-- The last place of a name decides on its value. -/
theorem value_ofIndex_of_lastPlace {names : List String} {p : Nat}
    (last : LastPlace names name p) : (ofIndex names index).value name = index.toNat.testBit p := by
  rw [ofIndex, value_ofBits_of_lastPlace last, Nat.zero_add]

/-- Among distinct names each has the value of the bit at its place. -/
theorem value_ofIndex_getElem {names : List String} (distinct : names.Nodup) {j : Nat}
    (h : j < names.length) :
    (ofIndex names index).value names[j] = index.toNat.testBit j :=
  value_ofIndex_of_lastPlace (lastPlace_getElem distinct h)

/-- The values of distinct names, in order, are the bits of the number. -/
theorem map_value_ofIndex {names : List String} (distinct : names.Nodup) (index : UInt64) :
    names.map (ofIndex names index).value = bits names.length index.toNat := by
  apply List.ext_getElem
  · rw [List.length_map, length_bits]
  · intro j inside _
    rw [List.length_map] at inside
    rw [List.getElem_map, value_ofIndex_getElem distinct inside]
    simp [bits]

end Assignment

end Propositional
