import Mathlib.Algebra.Group.Nat.Defs
import Propositional.Enumeration

set_option autoImplicit false

/-!
# Running through an enumeration

`Enumeration.Yields` says what comes of asking for the next item until there is none.
An enumeration over few enough names hands out an item for each number below the power of
two, in order; over any number of names it has at least one.
-/

namespace Propositional

namespace Enumeration

variable {α : Type} {e after : Enumeration α} {x : α}

/-- Asking for the next item over and over gives these, one by one, and then none. -/
inductive Yields : Enumeration α → List α → Prop where
  | done {e : Enumeration α} (stop : e.next? = none) : Yields e []
  | next {e after : Enumeration α} {x : α} {items : List α}
      (step : e.next? = some (x, after)) (tail : Yields after items) : Yields e (x :: items)

/-- Handing out an item leaves one less to come. -/
theorem remaining_of_next? (h : e.next? = some (x, after)) :
    e.remaining = after.remaining + 1 := by
  rw [← length_toList e, ← length_toList after, toList_of_next? h, List.length_cons]

/-- The items to come are what asking for them gives. -/
theorem yields_toList (e : Enumeration α) : e.Yields e.toList := by
  cases step : e.next? with
  | none =>
    rw [toList_of_next?_eq_none step]
    exact .done step
  | some pair =>
    obtain ⟨x, after⟩ := pair
    rw [toList_of_next? step]
    have less : e.remaining = after.remaining + 1 := remaining_of_next? step
    exact .next step (yields_toList after)
termination_by e.remaining

/-- Nothing else comes of asking. -/
theorem Yields.eq_toList {items : List α} (yields : e.Yields items) : items = e.toList := by
  induction yields with
  | done stop => exact (toList_of_next?_eq_none stop).symm
  | next step _ ih => rw [toList_of_next? step, ih]

end Enumeration

namespace Cursor

/-- Over fewer than 64 names every assignment has a number below the limit. -/
theorem remaining_start {n : Nat} (narrow : n < 64) : (start n).remaining = 2 ^ n := by
  have counted : rowCount? n = some (UInt64.ofNat (Nat.pow 2 n)) := if_pos narrow
  have limit : (start n).limit.toNat = 2 ^ n := by
    simp only [start, counted, Option.getD_some]
    exact toNat_of_rowCount? counted
  unfold remaining
  rw [limit]
  exact Nat.sub_zero _

/-- Over 64 names or more, one number less than 64 bits can hold is below the limit. -/
theorem remaining_start_of_wide {n : Nat} (wide : 64 ≤ n) : (start n).remaining = 2 ^ 64 - 1 := by
  have uncounted : rowCount? n = none := rowCount?_eq_none_iff.2 wide
  simp only [remaining, start, uncounted, Option.getD_none]
  rfl

/-- Moving on changes nothing but the next number, which grows by one as a natural number. -/
theorem toNat_next_of_advance? {c after : Cursor} (h : c.advance? = some after) :
    after.next.toNat = c.next.toNat + 1 ∧ after.limit = c.limit := by
  rw [advance?] at h
  split at h
  · rename_i less
    obtain rfl := Option.some.inj h
    exact ⟨toNat_next_succ less, rfl⟩
  · cases h

/-- Moving past `n` numbers adds `n` to the next one, up to the limit. -/
theorem toNat_next_drop (n : Nat) :
    ∀ c : Cursor, (drop n c).next.toNat = min (c.next.toNat + n) c.limit.toNat := by
  induction n with
  | zero =>
    intro c
    exact (Nat.min_eq_left (UInt64.le_iff_toNat_le.1 c.next_le_limit)).symm
  | succ n ih =>
    intro c
    cases move : c.advance? with
    | none =>
      have done : c.limit.toNat - c.next.toNat = 0 := remaining_eq_zero_iff.2 move
      have bound : c.next.toNat ≤ c.limit.toNat := UInt64.le_iff_toNat_le.1 c.next_le_limit
      simp only [drop, move]
      omega
    | some after =>
      obtain ⟨next, limit⟩ := toNat_next_of_advance? move
      simp only [drop, move, ih, next, limit]
      congr 1
      omega

/-- An enumeration is never empty to begin with. -/
theorem remaining_start_pos (n : Nat) : 0 < (start n).remaining := by
  by_cases narrow : n < 64
  · rw [remaining_start narrow]
    exact Nat.two_pow_pos n
  · have uncounted : rowCount? n = none := if_neg narrow
    simp only [remaining, start, uncounted, Option.getD_none]
    decide

end Cursor

namespace Enumeration

variable {α : Type} {n : Nat}

/-- The items over any number of names are those of the numbers below the limit. -/
theorem toList_overNames (item : UInt64 → α) : (overNames n item).toList =
    (List.range (Cursor.start n).remaining).map fun i => item (UInt64.ofNat i) := by
  unfold toList itemsFrom
  refine List.map_congr_left fun i _ => congrArg item ?_
  exact UInt64.zero_add (UInt64.ofNat i)

theorem toList_overNames_ne_nil (item : UInt64 → α) : (overNames n item).toList ≠ [] := by
  intro empty
  have none : (overNames n item).remaining = 0 := by
    rw [← length_toList, empty, List.length_nil]
  have some : 0 < (overNames n item).remaining := Cursor.remaining_start_pos n
  omega

end Enumeration

end Propositional
