import Std.Data.ExtTreeMap

set_option autoImplicit false

/-!
# Assignments

An assignment gives truth values to finitely many names; two assignments are equal
when they give the same values to the same names.  Over a list of names the
assignments are numbered: the bits of the number, the lowest first, are the values.
-/

namespace Propositional

/-! ## Bits of a number -/

/-- Shifts a number down, if the distance is less than the number is wide. -/
def shiftDown? (index : UInt64) (distance : UInt32) : Option UInt64 :=
  if distance < 64 then some (index >>> distance.toUInt64) else none

/-- Shifts a number down as far as a place in a list.  Distances have 32 bits, and a place
may need more. -/
def downTo? (index : UInt64) (place : Nat) : Option UInt64 :=
  if place < UInt32.size then shiftDown? index (UInt32.ofNat place) else none

/-- The bit of a number at a place.  Past its width, however far, every bit is false. -/
def bitAt (index : UInt64) (place : Nat) : Bool :=
  match downTo? index place with
  | some shifted => shifted &&& 1 == 1
  | none => false

/-- A shift is by less than the width, and loses nothing but the bits below. -/
theorem toNat_of_shiftDown? {index shifted : UInt64} {distance : UInt32}
    (h : shiftDown? index distance = some shifted) :
    distance.toNat < 64 ∧ shifted.toNat = index.toNat >>> distance.toNat := by
  rw [shiftDown?] at h
  split at h
  · rename_i near
    obtain rfl := Option.some.inj h
    have below : distance.toNat < 64 := UInt32.lt_iff_toNat_lt.1 near
    refine ⟨below, ?_⟩
    rw [UInt64.toNat_shiftRight, UInt32.toNat_toUInt64, Nat.mod_eq_of_lt below]
  · cases h

theorem toNat_of_downTo? {index shifted : UInt64} {place : Nat}
    (h : downTo? index place = some shifted) :
    place < 64 ∧ shifted.toNat = index.toNat >>> place := by
  rw [downTo?] at h
  split at h
  · rename_i short
    have distance : (UInt32.ofNat place).toNat = place := by
      rw [UInt32.toNat_ofNat']
      exact Nat.mod_eq_of_lt short
    have moved := toNat_of_shiftDown? h
    rw [distance] at moved
    exact moved
  · cases h

theorem downTo?_eq_none_iff {index : UInt64} {place : Nat} :
    downTo? index place = none ↔ 64 ≤ place := by
  constructor
  · intro h
    rw [downTo?] at h
    split at h
    · rename_i short
      rw [shiftDown?] at h
      split at h
      · cases h
      · rename_i far
        rw [UInt32.lt_iff_toNat_lt, UInt32.toNat_ofNat', Nat.mod_eq_of_lt short] at far
        exact Nat.le_of_not_lt far
    · rename_i long
      exact Nat.le_trans (by decide) (Nat.le_of_not_lt long)
  · intro far
    cases h : downTo? index place with
    | none => rfl
    | some shifted => exact absurd (toNat_of_downTo? h).1 (Nat.not_lt.2 far)

/-- The bit at a place is the one that the number has there in binary. -/
theorem bitAt_eq_testBit (index : UInt64) (place : Nat) :
    bitAt index place = index.toNat.testBit place := by
  unfold bitAt
  cases h : downTo? index place with
  | none =>
    have width : index.toNat < 2 ^ place :=
      Nat.lt_of_lt_of_le index.toNat_lt
        (Nat.pow_le_pow_right Nat.zero_lt_two (downTo?_eq_none_iff.1 h))
    exact (Nat.testBit_lt_two_pow width).symm
  | some shifted =>
    have low : (shifted &&& 1).toNat = index.toNat >>> place % 2 := by
      rw [UInt64.toNat_and, (toNat_of_downTo? h).2]
      exact Nat.and_one_is_mod _
    calc (shifted &&& 1 == 1)
        = decide ((shifted &&& 1).toNat = 1) := by
          rw [Bool.eq_iff_iff, beq_iff_eq, decide_eq_true_iff, ← UInt64.toNat_inj]
          rfl
      _ = (index.toNat >>> place).testBit 0 := by rw [low, Nat.testBit_zero]
      _ = index.toNat.testBit place := by rw [Nat.testBit_shiftRight, Nat.add_zero]

/-! ## Assignments -/

/-- Truth values given to names. -/
abbrev Assignment := Std.ExtTreeMap String Bool

namespace Assignment

/-- The value of a name, false where none is given. -/
def value (a : Assignment) (name : String) : Bool := a.getD name false

/-- Gives each name the bit of `index` at its place in the list, counting on from
`place`.  A later place of the same name wins, and past the width of the index
every bit is false. -/
def ofBits (index : UInt64) : (place : Nat) → List String → Assignment → Assignment
  | _, [], a => a
  | place, name :: rest, a =>
    ofBits index (place + 1) rest (a.insert name (bitAt index place))

/-- The assignment with that number over a list of names. -/
def ofIndex (names : List String) (index : UInt64) : Assignment := ofBits index 0 names ∅

/-- A name without a value counts as false. -/
theorem value_eq_getElem?_getD (a : Assignment) (name : String) :
    a.value name = a[name]?.getD false := Std.ExtTreeMap.getD_eq_getD_getElem?

theorem value_insert (a : Assignment) (x name : String) (b : Bool) :
    value (a.insert x b) name = if x = name then b else a.value name := by
  simp [value, Std.ExtTreeMap.getD_insert]

end Assignment

end Propositional
