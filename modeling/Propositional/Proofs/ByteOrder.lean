set_option autoImplicit false

/-!
# Order by bytes

Texts are compared by their code points.  In UTF-8 the lead byte of a longer code is above that
of a shorter one, and codes of one length are compared as the numbers that they stand for, digit
by digit.  So the bytes of two texts, compared from the front, are in the same order as the
texts.
-/

namespace Propositional

namespace Text

/-- The bytes of a text in UTF-8. -/
def bytes (s : String) : List UInt8 := s.toUTF8.data.toList

theorem bytes_eq_flatMap (s : String) : bytes s = s.toList.flatMap String.utf8EncodeChar := by
  have whole : s.toUTF8 = s.toList.utf8Encode := by
    rw [String.toUTF8_eq_toByteArray]
    exact String.utf8Encode_toList.symm
  rw [bytes, whole, List.utf8Encode, List.toList_data_toByteArray]

/-! ## Codes of one length -/

theorem cons_lt_of_lt {a b : Nat} (less : a < b) (fits : b < 256) (l m : List UInt8) :
    UInt8.ofNat a :: l < UInt8.ofNat b :: m := by
  refine List.cons_lt_cons_iff.2 (.inl ?_)
  rw [UInt8.lt_iff_toNat_lt, UInt8.toNat_ofNat', UInt8.toNat_ofNat', Nat.mod_eq_of_lt fits,
    Nat.mod_eq_of_lt (Nat.lt_trans less fits)]
  exact less

theorem append_lt_append_left (front : List UInt8) {l m : List UInt8} (less : l < m) :
    front ++ l < front ++ m := by
  induction front with
  | nil => exact less
  | cons b front ih => exact List.cons_lt_cons_iff.2 (.inr ⟨rfl, ih⟩)

/-- Below `bound`, the greater number has the greater bytes, whatever follows them. -/
def Rises (code : Nat → List UInt8) (bound : Nat) : Prop :=
  ∀ i k : Nat, i < k → k < bound → ∀ l m : List UInt8, code i ++ l < code k ++ m

/-- A lead byte is a digit of its own base, above the marks of its length. -/
theorem rises_lead {count base : Nat} (fits : count + base ≤ 256) :
    Rises (fun n => [UInt8.ofNat (n % count + base)]) count := by
  intro i k less below l m
  have small : i % count = i := Nat.mod_eq_of_lt (Nat.lt_trans less below)
  have great : k % count = k := Nat.mod_eq_of_lt below
  refine cons_lt_of_lt ?_ ?_ l m
  · rw [small, great]
    omega
  · rw [great]
    omega

/-- One more byte behind a code is one more digit to base 64. -/
theorem Rises.digit {code : Nat → List UInt8} {bound : Nat} (rises : Rises code bound) :
    Rises (fun n => code (n / 64) ++ [UInt8.ofNat (n % 64 + 128)]) (64 * bound) := by
  intro i k less below l m
  rw [List.append_assoc, List.append_assoc]
  have high : k / 64 < bound := Nat.div_lt_of_lt_mul below
  rcases Nat.lt_or_eq_of_le (Nat.div_le_div_right (c := 64) (Nat.le_of_lt less)) with up | same
  · exact rises _ _ up high _ _
  · rw [same]
    refine append_lt_append_left _ (cons_lt_of_lt ?_ ?_ l m)
    · omega
    · omega

theorem rises_two : Rises
    (fun n => [UInt8.ofNat (n / 64 % 32 + 192), UInt8.ofNat (n % 64 + 128)]) (64 * 32) :=
  (rises_lead (by decide)).digit

theorem rises_three : Rises
    (fun n => [UInt8.ofNat (n / 4096 % 16 + 224), UInt8.ofNat (n / 64 % 64 + 128),
      UInt8.ofNat (n % 64 + 128)]) (64 * (64 * 16)) := by
  have fits : 16 + 224 ≤ 256 := by decide
  have rises := (rises_lead fits).digit.digit
  simp only [Nat.div_div_eq_div_mul] at rises
  exact rises

theorem rises_four : Rises
    (fun n => [UInt8.ofNat (n / 262144 % 8 + 240), UInt8.ofNat (n / 4096 % 64 + 128),
      UInt8.ofNat (n / 64 % 64 + 128), UInt8.ofNat (n % 64 + 128)]) (64 * (64 * (64 * 8))) := by
  have fits : 8 + 240 ≤ 256 := by decide
  have rises := (rises_lead fits).digit.digit.digit
  simp only [Nat.div_div_eq_div_mul] at rises
  exact rises

/-! ## Characters and texts -/

theorem toNat_val_lt (c : Char) : c.val.toNat < 0x110000 := by
  rcases c.valid with low | ⟨_, high⟩
  · exact Nat.lt_trans low (by decide)
  · exact high

/-- The lesser character has the lesser bytes, whatever follows. -/
theorem encode_append_lt {c d : Char} (less : c < d) (l m : List UInt8) :
    String.utf8EncodeChar c ++ l < String.utf8EncodeChar d ++ m := by
  have points : c.val.toNat < d.val.toNat := less
  have last : d.val.toNat < 0x110000 := toNat_val_lt d
  unfold String.utf8EncodeChar
  dsimp only
  generalize c.val.toNat = i at *
  generalize d.val.toNat = k at *
  -- The greater one has no shorter code; where its code is longer, the lead bytes decide.
  by_cases one : k ≤ 127
  · rw [if_pos one, if_pos (by omega)]
    exact cons_lt_of_lt points (by omega) l m
  · rw [if_neg one]
    by_cases two : k ≤ 2047
    · rw [if_pos two]
      split
      · exact cons_lt_of_lt (by omega) (by omega) _ _
      · rw [if_pos (by omega)]
        exact rises_two i k points (by omega) l m
    · rw [if_neg two]
      by_cases three : k ≤ 65535
      · rw [if_pos three]
        split
        · exact cons_lt_of_lt (by omega) (by omega) _ _
        · split
          · exact cons_lt_of_lt (by omega) (by omega) _ _
          · rw [if_pos (by omega)]
            exact rises_three i k points (by omega) l m
      · rw [if_neg three]
        split
        · exact cons_lt_of_lt (by omega) (by omega) _ _
        · split
          · exact cons_lt_of_lt (by omega) (by omega) _ _
          · split
            · exact cons_lt_of_lt (by omega) (by omega) _ _
            · exact rises_four i k points (by omega) l m

theorem flatMap_encode_lt {l m : List Char} (less : l < m) :
    l.flatMap String.utf8EncodeChar < m.flatMap String.utf8EncodeChar := by
  induction m generalizing l with
  | nil => exact absurd less (List.not_lt_nil l)
  | cons d m ih =>
    rw [List.flatMap_cons]
    cases l with
    | nil =>
      obtain ⟨lead, others, code⟩ :=
        List.exists_cons_of_ne_nil (String.utf8EncodeChar_ne_nil (c := d))
      rw [code]
      exact List.nil_lt_cons lead _
    | cons c l =>
      rw [List.flatMap_cons]
      rcases List.cons_lt_cons_iff.1 less with first | ⟨rfl, rest⟩
      · exact encode_append_lt first _ _
      · exact append_lt_append_left _ (ih rest)

theorem bytes_lt_bytes_of_lt {s t : String} (less : s < t) : bytes s < bytes t := by
  rw [bytes_eq_flatMap, bytes_eq_flatMap]
  exact flatMap_encode_lt (String.lt_iff.1 less)

/-- Texts are in the same order by their bytes as by their code points. -/
theorem bytes_lt_bytes_iff {s t : String} : bytes s < bytes t ↔ s < t := by
  refine ⟨fun less => ?_, bytes_lt_bytes_of_lt⟩
  by_cases here : s < t
  · exact here
  · by_cases same : t = s
    · rw [same] at less
      exact absurd less (List.lt_irrefl _)
    · have greater : t < s := Std.lt_of_le_of_ne (String.not_lt.1 here) same
      exact absurd (bytes_lt_bytes_of_lt greater) (List.lt_asymm less)

end Text

end Propositional
