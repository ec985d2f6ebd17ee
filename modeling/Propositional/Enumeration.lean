import Propositional.Assignment

set_option autoImplicit false

/-!
# Enumerations

An enumeration hands out numbered items one after the other, up to a limit.  The
numbers have 64 bits.  Its view is `toList`, the items still to come; each operation
is described by what it does to that list.
-/

namespace Propositional

/-! ## Cursors -/

/-- How many assignments `n` names have, when 64 bits can hold the number. -/
def rowCount? (n : Nat) : Option UInt64 :=
  if n < 64 then some (UInt64.ofNat (Nat.pow 2 n)) else none

theorem rowCount?_eq_none_iff {n : Nat} : rowCount? n = none ↔ 64 ≤ n := by
  simp [rowCount?]

/-- Where the number of assignments can be held, it is a power of two. -/
theorem toNat_of_rowCount? {n : Nat} {count : UInt64} (h : rowCount? n = some count) :
    count.toNat = Nat.pow 2 n := by
  rw [rowCount?] at h
  split at h
  · rename_i narrow
    obtain rfl := Option.some.inj h
    have fits : 2 ^ n < 2 ^ 64 := Nat.pow_lt_pow_right (by decide) narrow
    rw [UInt64.toNat_ofNat']
    exact Nat.mod_eq_of_lt fits
  · cases h

/-- The greatest number of 64 bits. -/
def greatestIndex : UInt64 := UInt64.ofNat (UInt64.size - 1)

/-- The next number to hand out, and the first that is not handed out any more. -/
structure Cursor where
  next : UInt64
  limit : UInt64
  next_le_limit : next ≤ limit
  deriving DecidableEq, Repr

namespace Cursor

/-- Numbers the assignments of `n` names from zero; where there are too many, up to
the greatest number, which is not handed out. -/
def start (n : Nat) : Cursor where
  next := 0
  limit := (rowCount? n).getD greatestIndex
  next_le_limit := UInt64.le_iff_toNat_le.2 (Nat.zero_le _)

/-- How many numbers are left. -/
def remaining (c : Cursor) : Nat := c.limit.toNat - c.next.toNat

theorem toNat_next_succ {c : Cursor} (h : c.next < c.limit) :
    (c.next + 1).toNat = c.next.toNat + 1 := by
  have below : c.next.toNat < c.limit.toNat := UInt64.lt_iff_toNat_lt.1 h
  have width : c.limit.toNat < 2 ^ 64 := c.limit.toNat_lt
  rw [UInt64.toNat_add, UInt64.toNat_one]
  exact Nat.mod_eq_of_lt (by omega)

/-- Moves past the next number, if there is one. -/
def advance? (c : Cursor) : Option Cursor :=
  if h : c.next < c.limit then
    some
      { next := c.next + 1
        limit := c.limit
        next_le_limit := by
          rw [UInt64.le_iff_toNat_le, toNat_next_succ h]
          exact UInt64.lt_iff_toNat_lt.1 h }
  else none

/-- Moves past `n` numbers, or to the end when there are fewer. -/
def drop : Nat → Cursor → Cursor
  | 0, c => c
  | n + 1, c =>
    match c.advance? with
    | some after => drop n after
    | none => c

theorem remaining_eq_zero_iff {c : Cursor} : c.remaining = 0 ↔ c.advance? = none := by
  have bound : c.next.toNat ≤ c.limit.toNat := UInt64.le_iff_toNat_le.1 c.next_le_limit
  simp only [remaining, advance?, dite_eq_right_iff, reduceCtorEq, imp_false,
    UInt64.lt_iff_toNat_lt]
  omega

/-- Moving on takes one number off those that are left. -/
theorem remaining_of_advance? {c after : Cursor} (h : c.advance? = some after) :
    c.remaining = after.remaining + 1 := by
  rw [advance?] at h
  split at h
  · rename_i less
    obtain rfl := Option.some.inj h
    have below : c.next.toNat < c.limit.toNat := UInt64.lt_iff_toNat_lt.1 less
    simp only [remaining, toNat_next_succ less]
    omega
  · cases h

end Cursor

/-! ## Enumerations -/

/-- Items by number, and the cursor over the numbers. -/
structure Enumeration (α : Type) where
  item : UInt64 → α
  cursor : Cursor

namespace Enumeration

variable {α : Type}

/-- Enumerates what `item` makes of the assignments of `n` names, by their numbers. -/
def overNames (n : Nat) (item : UInt64 → α) : Enumeration α := ⟨item, .start n⟩

/-- How many items are to come. -/
def remaining (e : Enumeration α) : Nat := e.cursor.remaining

/-- The item with the next number, whether or not the limit allows for it. -/
def head (e : Enumeration α) : α := e.item e.cursor.next

/-- The next item with the enumeration behind it. -/
def next? (e : Enumeration α) : Option (α × Enumeration α) :=
  e.cursor.advance?.map fun after => (e.head, { e with cursor := after })

/-- Passes over `n` items, or to the end when there are fewer. -/
def drop (n : Nat) (e : Enumeration α) : Enumeration α :=
  { e with cursor := e.cursor.drop n }

/-- Passes over `n` items and hands out the one after; at the end there is none. -/
def skip? (n : Nat) (e : Enumeration α) : Option α × Enumeration α :=
  match (e.drop n).next? with
  | some (x, after) => (some x, after)
  | none => (none, e.drop n)

/-- The next items, at most `n`, with the enumeration behind them. -/
def take : Nat → Enumeration α → List α × Enumeration α
  | 0, e => ([], e)
  | n + 1, e =>
    match e.next? with
    | none => ([], e)
    | some (x, after) =>
      match take n after with
      | (more, last) => (x :: more, last)

/-- The items of `count` numbers from `number` on. -/
def itemsFrom (item : UInt64 → α) (number : UInt64) (count : Nat) : List α :=
  (List.range count).map fun k => item (number + UInt64.ofNat k)

/-- The items to come, in order. -/
def toList (e : Enumeration α) : List α := itemsFrom e.item e.cursor.next e.remaining

/-- Looks through the items of `count` numbers from `number` on for one that passes,
and no further than to the first. -/
def searchFrom (p : α → Bool) (item : UInt64 → α) : UInt64 → Nat → Bool
  | _, 0 => false
  | number, count + 1 => p (item number) || searchFrom p item (number + 1) count

/-- Some item to come passes. -/
def any (e : Enumeration α) (p : α → Bool) : Bool :=
  searchFrom p e.item e.cursor.next e.remaining

/-- Every item to come passes. -/
def all (e : Enumeration α) (p : α → Bool) : Bool := !e.any fun x => !p x

/-! ## The items to come -/

@[simp] theorem length_toList (e : Enumeration α) : e.toList.length = e.remaining := by
  simp [toList, itemsFrom]

theorem itemsFrom_succ (item : UInt64 → α) (number : UInt64) (count : Nat) :
    itemsFrom item number (count + 1) = item number :: itemsFrom item (number + 1) count := by
  have shift : ∀ k : Nat, number + UInt64.ofNat (k + 1) = number + 1 + UInt64.ofNat k := by
    intro k
    rw [UInt64.ofNat_add, UInt64.add_comm (UInt64.ofNat k), ← UInt64.add_assoc]
    rfl
  simp only [itemsFrom, List.range_succ_eq_map, List.map_cons, List.map_map]
  refine congr (congrArg _ (congrArg item (UInt64.add_zero number))) ?_
  refine List.map_congr_left fun k _ => ?_
  exact congrArg item (shift k)

theorem toList_of_next?_eq_none {e : Enumeration α} (h : e.next? = none) : e.toList = [] := by
  have done : e.remaining = 0 :=
    Cursor.remaining_eq_zero_iff.2 (Option.map_eq_none_iff.1 h)
  simp [toList, done, itemsFrom]

/-- The next item is the first to come. -/
theorem toList_of_next? {e after : Enumeration α} {x : α} (h : e.next? = some (x, after)) :
    e.toList = x :: after.toList := by
  obtain ⟨moved, advance, pair⟩ := Option.map_eq_some_iff.1 h
  obtain ⟨rfl, rfl⟩ := Prod.mk.inj pair
  have left : e.remaining = moved.remaining + 1 := Cursor.remaining_of_advance? advance
  rw [toList, left, itemsFrom_succ]
  refine congrArg _ ?_
  have next : moved.next = e.cursor.next + 1 := by
    rw [Cursor.advance?] at advance
    split at advance
    · rw [← Option.some.inj advance]
    · cases advance
  simp [toList, remaining, next]

theorem drop_of_next?_eq_none {e : Enumeration α} (h : e.next? = none) (n : Nat) :
    e.drop n = e := by
  have stuck : e.cursor.advance? = none := Option.map_eq_none_iff.1 h
  cases n with
  | zero => rfl
  | succ n => simp [drop, Cursor.drop, stuck]

theorem drop_succ {e after : Enumeration α} {x : α} (h : e.next? = some (x, after)) (n : Nat) :
    e.drop (n + 1) = after.drop n := by
  obtain ⟨moved, advance, pair⟩ := Option.map_eq_some_iff.1 h
  obtain ⟨rfl, rfl⟩ := Prod.mk.inj pair
  simp [drop, Cursor.drop, advance]

/-- Passing over items takes them off the front. -/
theorem toList_drop (n : Nat) : ∀ e : Enumeration α, (e.drop n).toList = e.toList.drop n := by
  induction n with
  | zero =>
    intro e
    rfl
  | succ n ih =>
    intro e
    cases next : e.next? with
    | none => rw [drop_of_next?_eq_none next, toList_of_next?_eq_none next, List.drop_nil]
    | some first =>
      obtain ⟨x, after⟩ := first
      rw [drop_succ next, ih, toList_of_next? next, List.drop_succ_cons]

/-- What is taken is the front of the items to come, and what is left the rest. -/
theorem take_eq (n : Nat) : ∀ e : Enumeration α, e.take n = (e.toList.take n, e.drop n) := by
  induction n with
  | zero =>
    intro e
    rfl
  | succ n ih =>
    intro e
    cases next : e.next? with
    | none =>
      rw [drop_of_next?_eq_none next, toList_of_next?_eq_none next, List.take_nil]
      simp [take, next]
    | some first =>
      obtain ⟨x, after⟩ := first
      rw [drop_succ next, toList_of_next? next, List.take_succ_cons]
      simp [take, next, ih]

theorem searchFrom_eq (p : α → Bool) (item : UInt64 → α) (count : Nat) :
    ∀ number, searchFrom p item number count = (itemsFrom item number count).any p := by
  induction count with
  | zero =>
    intro number
    rfl
  | succ count ih =>
    intro number
    rw [searchFrom, ih, itemsFrom_succ, List.any_cons]

theorem any_eq (e : Enumeration α) (p : α → Bool) : e.any p = e.toList.any p :=
  searchFrom_eq p e.item e.remaining e.cursor.next

theorem all_eq (e : Enumeration α) (p : α → Bool) : e.all p = e.toList.all p := by
  rw [all, any_eq, List.all_eq_not_any_not]

end Enumeration

/-! ## Assignments in order of their numbers -/

/-- The assignments over a list of names. -/
def Assignment.enumerate (names : List String) : Enumeration Assignment :=
  .overNames names.length (Assignment.ofIndex names)

end Propositional
