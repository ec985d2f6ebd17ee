import Propositional.Text.CodeRanges

set_option autoImplicit false

/-!
# White space

The Unicode property White_Space, by which a text is cut into words.
-/

namespace Propositional.Text

/-- The ranges of characters with the property White_Space. -/
def blankRanges : List CodeRange := [
  ⟨0x0009, 0x000D⟩, ⟨0x0020, 0x0020⟩, ⟨0x0085, 0x0085⟩, ⟨0x00A0, 0x00A0⟩,
  ⟨0x1680, 0x1680⟩, ⟨0x2000, 0x200A⟩, ⟨0x2028, 0x2029⟩, ⟨0x202F, 0x202F⟩,
  ⟨0x205F, 0x205F⟩, ⟨0x3000, 0x3000⟩]

theorem blankRanges_ascending : CodeRange.Ascending blankRanges :=
  CodeRange.ascending_of_ascends (by decide)

/-- The character separates words. -/
def isBlank (c : Char) : Bool := CodeRange.covers c.toNat blankRanges

theorem isBlank_iff (c : Char) :
    isBlank c = true ↔ ∃ r ∈ blankRanges, r.Contains c.toNat :=
  CodeRange.covers_iff blankRanges_ascending c.toNat

/-- The letters of ASCII are in two ranges, the capitals first. -/
theorem range_of_isAlpha {c : Char} (h : c.isAlpha = true) :
    (65 ≤ c.toNat ∧ c.toNat ≤ 90) ∨ (97 ≤ c.toNat ∧ c.toNat ≤ 122) := by
  rcases Bool.or_eq_true_iff.1 h with upper | lower
  · exact .inl (of_decide_eq_true upper)
  · obtain ⟨low, high⟩ := Bool.and_eq_true_iff.1 lower
    exact .inr ⟨of_decide_eq_true low, of_decide_eq_true high⟩

/-- Letters of ASCII separate no words. -/
theorem isBlank_of_isAlpha {c : Char} (h : c.isAlpha = true) : isBlank c = false := by
  have letter := range_of_isAlpha h
  have apart : ∀ r ∈ blankRanges, r.last < 65 ∨ 122 < r.first := by decide
  rw [Bool.eq_false_iff, Ne, isBlank_iff]
  rintro ⟨r, listed, low, high⟩
  rcases apart r listed with below | above <;> omega

end Propositional.Text
