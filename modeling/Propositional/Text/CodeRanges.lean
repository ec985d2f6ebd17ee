set_option autoImplicit false

/-!
# Sets of code points

A property of characters is kept as the list of its ranges of code points.  The
lists run upwards, so a search stops at the first range that begins above the
code point it looks for; `covers_iff` says that nothing is missed by stopping.
-/

namespace Propositional.Text

/-- The code points from `first` to `last`, both included. -/
structure CodeRange where
  first : Nat
  last : Nat
  deriving DecidableEq, Repr

namespace CodeRange

/-- The code point lies in the range. -/
def Contains (r : CodeRange) (code : Nat) : Prop := r.first ≤ code ∧ code ≤ r.last

instance (r : CodeRange) (code : Nat) : Decidable (r.Contains code) :=
  inferInstanceAs (Decidable (_ ∧ _))

/-- Every range begins above the beginning of the one before it. -/
def Ascending (ranges : List CodeRange) : Prop :=
  ranges.Pairwise fun r s => r.first < s.first

/-- Decides `Ascending` by comparing neighbours. -/
def ascends : List CodeRange → Bool
  | [] => true
  | [_] => true
  | r :: s :: rest => decide (r.first < s.first) && ascends (s :: rest)

theorem ascending_of_ascends {ranges : List CodeRange} (h : ascends ranges = true) :
    Ascending ranges := by
  fun_induction ascends ranges with
  | case1 => exact .nil
  | case2 r => exact List.pairwise_singleton _ _
  | case3 r s rest ih =>
    simp only [Bool.and_eq_true, decide_eq_true_eq] at h
    have tail : Ascending (s :: rest) := ih h.2
    refine List.pairwise_cons.2 ⟨fun t ht => ?_, tail⟩
    rcases List.mem_cons.1 ht with rfl | ht
    · exact h.1
    · exact Nat.lt_trans h.1 ((List.pairwise_cons.1 tail).1 t ht)

/-- Whether one of the ascending `ranges` contains the code point. -/
def covers (code : Nat) : List CodeRange → Bool
  | [] => false
  | r :: rest => decide (r.first ≤ code) && (decide (code ≤ r.last) || covers code rest)

theorem covers_iff {ranges : List CodeRange} (h : Ascending ranges) (code : Nat) :
    covers code ranges = true ↔ ∃ r ∈ ranges, r.Contains code := by
  induction ranges with
  | nil => simp [covers]
  | cons r rest ih =>
    obtain ⟨above, tail⟩ := List.pairwise_cons.1 h
    simp only [covers, Bool.and_eq_true, Bool.or_eq_true, decide_eq_true_eq, ih tail,
      List.mem_cons, exists_eq_or_imp, Contains]
    constructor
    · rintro ⟨low, high | found⟩
      · exact .inl ⟨low, high⟩
      · exact .inr found
    · rintro (found | ⟨s, hs, found⟩)
      · exact ⟨found.1, .inl found.2⟩
      · exact ⟨Nat.le_trans (Nat.le_of_lt (above s hs)) found.1, .inr ⟨s, hs, found⟩⟩

end CodeRange

end Propositional.Text
