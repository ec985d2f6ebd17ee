import Mathlib.Data.Set.Card
import Propositional.Proofs.Encoding
import Propositional.Proofs.Listing

set_option autoImplicit false

/-!
# Lists with repeated names

Where names come again in a list there are more numbers than assignments.  The bit at a place
that is not the last of its name makes no difference, so each such place doubles the numbers
that every assignment has.
-/

namespace Propositional

variable {names : List String}

/-! ## Lists of values that settle the names alike -/

/-- At the last place of each name stands the value that the valuation gives it. -/
def Settles (valuation : String → Bool) : List String → List Bool → Bool
  | [], _ => true
  | name :: rest, values =>
    (decide (name ∈ rest) || values.head? == some (valuation name)) &&
      Settles valuation rest values.tail

theorem settles_iff {valuation : String → Bool} {values : List Bool} :
    Settles valuation names values = true ↔
      ∀ (name : String) (p : Nat), LastPlace names name p → values[p]? = some (valuation name) := by
  induction names generalizing values with
  | nil =>
    refine iff_of_true rfl ?_
    intro name p last
    cases last.1
  | cons name rest ih =>
    rw [Settles, Bool.and_eq_true, Bool.or_eq_true, decide_eq_true_iff, beq_iff_eq, ih,
      List.head?_eq_getElem?]
    constructor
    · rintro ⟨first, others⟩ other p last
      cases p with
      | zero =>
        obtain ⟨rfl, once⟩ := LastPlace.zero_iff.1 last
        exact first.resolve_left once
      | succ p =>
        rw [← List.getElem?_tail]
        exact others other p (LastPlace.succ_iff.1 last)
    · intro all
      constructor
      · by_cases again : name ∈ rest
        · exact .inl again
        · exact .inr (all name 0 (LastPlace.zero_iff.2 ⟨rfl, again⟩))
      · intro other p last
        rw [List.getElem?_tail]
        exact all other (p + 1) (LastPlace.succ_iff.2 last)

theorem countP_lengthen (p : List Bool → Bool) (lists : List (List Bool)) :
    (lengthen lists).countP p =
      lists.countP (fun values => p (false :: values)) +
        lists.countP (fun values => p (true :: values)) := by
  induction lists with
  | nil => rfl
  | cons values rest ih =>
    simp only [lengthen_cons, List.countP_cons, ih]
    omega

/-- Each distinct name halves the number of the lists that settle all names as wanted. -/
theorem countP_settles (valuation : String → Bool) (names : List String) :
    (allValues names.length).countP (Settles valuation names) =
      2 ^ (names.length - names.dedup.length) := by
  induction names with
  | nil => rfl
  | cons name rest ih =>
    rw [List.length_cons, allValues, countP_lengthen]
    by_cases again : name ∈ rest
    · -- The first value is overridden by a later one, so it may be either.
      have fewer : rest.dedup.length ≤ rest.length := (List.dedup_sublist rest).length_le
      simp only [Settles, decide_eq_true again, Bool.true_or, Bool.true_and, List.tail_cons]
      rw [ih, List.dedup_cons_of_mem again, Nat.succ_sub fewer, Nat.pow_succ, Nat.mul_two]
    · -- The first value has to be that of the name.
      simp only [Settles, decide_eq_false again, Bool.false_or, List.head?_cons, List.tail_cons]
      rw [List.dedup_cons_of_notMem again, List.length_cons, Nat.add_sub_add_right, ← ih]
      cases valuation name <;> simp

namespace Assignment

variable {a : Assignment}

/-- The numbers of an assignment are those whose bits settle the names as it does. -/
theorem settles_bits_iff (ha : a.Over names) (index : UInt64) :
    Settles a.value names (bits names.length index.toNat) = true ↔ ofIndex names index = a := by
  have spelled := spells_ofIndex names index
  rw [settles_iff]
  constructor
  · intro settles
    refine spelled.keys.eq_of_value_eq ha ?_
    intro name listed
    obtain ⟨p, last⟩ := exists_lastPlace listed
    have bit : some (index.toNat.testBit p) = some (a.value name) := by
      rw [← getElem?_bits last.lt_length]
      exact settles name p last
    rw [← Option.some.injEq, ← bit, ← spelled.bit name p last,
      getElem?_eq_some_value ((spelled.keys name).2 listed)]
  · rintro rfl name p last
    rw [getElem?_bits last.lt_length, ← spelled.bit name p last,
      getElem?_eq_some_value ((spelled.keys name).2 last.mem)]

/-! ## Enumerations -/

/-- The assignments in order of their numbers. -/
theorem toList_enumerate (narrow : names.length < 64) : (enumerate names).toList =
    (List.range (2 ^ names.length)).map fun i => ofIndex names (UInt64.ofNat i) := by
  unfold enumerate
  rw [Enumeration.toList_overNames, Cursor.remaining_start narrow]

theorem length_enumerate (narrow : names.length < 64) :
    (enumerate names).toList.length = 2 ^ names.length := by
  rw [toList_enumerate narrow, List.length_map, List.length_range]

theorem spells_of_getElem? (narrow : names.length < 64) {i : Nat}
    (h : (enumerate names).toList[i]? = some a) : a.Spells names i := by
  rw [toList_enumerate narrow, List.getElem?_map] at h
  obtain ⟨k, here, rfl⟩ := Option.map_eq_some_iff.1 h
  obtain ⟨below, rfl⟩ := List.getElem?_eq_some_iff.1 here
  rw [List.length_range] at below
  have spelled := spells_ofIndex names (UInt64.ofNat i)
  rw [toNat_ofNat_of_lt_two_pow (Nat.le_of_lt narrow) below] at spelled
  rw [List.getElem_range]
  exact spelled

/-- Each assignment over the names comes as often as there are values for the places that are
not last ones. -/
theorem count_enumerate (narrow : names.length < 64) (ha : a.Over names) :
    (enumerate names).toList.count a = 2 ^ (names.length - names.toFinset.card) := by
  rw [List.card_toFinset, ← countP_settles a.value names, ← map_bits_range,
    toList_enumerate narrow, List.count, List.countP_map, List.countP_map]
  refine List.countP_congr fun i member => ?_
  have below : i < 2 ^ names.length := List.mem_range.1 member
  have settles := settles_bits_iff ha (UInt64.ofNat i)
  rw [toNat_ofNat_of_lt_two_pow (Nat.le_of_lt narrow) below] at settles
  exact beq_iff_eq.trans settles.symm

/-- The assignments that an enumeration gives are those over its names. -/
theorem mem_enumerate_iff (narrow : names.length < 64) :
    a ∈ (enumerate names).toList ↔ a.Over names := by
  constructor
  · intro member
    obtain ⟨i, here⟩ := List.mem_iff_getElem?.1 member
    exact (spells_of_getElem? narrow here).keys
  · intro ha
    rw [← List.count_pos_iff, count_enumerate narrow ha]
    exact Nat.two_pow_pos _

/-- Over distinct names every assignment comes once. -/
theorem nodup_enumerate (narrow : names.length < 64) (distinct : names.Nodup) :
    (enumerate names).toList.Nodup := by
  rw [List.nodup_iff_count_eq_one]
  intro a member
  rw [count_enumerate narrow ((mem_enumerate_iff narrow).1 member),
    List.toFinset_card_of_nodup distinct, Nat.sub_self, Nat.pow_zero]

theorem over_dedup_iff : a.Over names.dedup ↔ a.Over names := by
  unfold Over
  simp only [List.mem_dedup]

/-- There are as many assignments over a list as lists of values for its distinct names. -/
theorem ncard_over (narrow : names.length < 64) :
    {a : Assignment | a.Over names}.ncard = 2 ^ names.toFinset.card := by
  have fewer : names.dedup.length < 64 :=
    Nat.lt_of_le_of_lt (List.dedup_sublist names).length_le narrow
  have listed : {a : Assignment | a.Over names} = ↑(enumerate names.dedup).toList.toFinset := by
    ext a
    rw [Finset.mem_coe, List.mem_toFinset, mem_enumerate_iff fewer, over_dedup_iff]
    rfl
  rw [listed, Set.ncard_coe_finset,
    List.toFinset_card_of_nodup (nodup_enumerate fewer names.nodup_dedup),
    length_enumerate fewer, List.card_toFinset]

/-- Over a list of at most 63 names with repetitions, the assignment that comes at a place of
the enumeration gives each name the bit of the place at the last one where the name stands.
Every assignment of the distinct names comes, and all of them equally often. -/
theorem enumerate_repeats (names : List String) (narrow : names.length ≤ 63) :
    ∃ items : List Assignment, (enumerate names).Yields items ∧
      items.length = 2 ^ names.length ∧
      (∀ (i : Nat) (a : Assignment), items[i]? = some a → a.Spells names i) ∧
      {a : Assignment | a.Over names}.ncard = 2 ^ names.toFinset.card ∧
      ∀ a : Assignment, a.Over names →
        items.count a = 2 ^ (names.length - names.toFinset.card) := by
  have fits : names.length < 64 := Nat.lt_succ_of_le narrow
  refine ⟨(enumerate names).toList, Enumeration.yields_toList _, length_enumerate fits, ?_,
    ncard_over fits, fun a ha => count_enumerate fits ha⟩
  intro i a here
  exact spells_of_getElem? fits here

/-- With `p` at three places and `q` at one, each of four assignments comes four times. -/
theorem enumerate_repeats_thrice :
    ["p", "q", "p", "p"].length ≤ 63 ∧
      ∃ items : List Assignment, (enumerate ["p", "q", "p", "p"]).Yields items ∧
        {a : Assignment | a.Over ["p", "q", "p", "p"]}.ncard = 4 ∧
        ∀ a : Assignment, a.Over ["p", "q", "p", "p"] → items.count a = 4 := by
  have narrow : ["p", "q", "p", "p"].length ≤ 63 := by decide
  obtain ⟨items, yields, _, _, distinct, often⟩ := enumerate_repeats _ narrow
  exact ⟨narrow, items, yields, distinct, often⟩

end Assignment

end Propositional
