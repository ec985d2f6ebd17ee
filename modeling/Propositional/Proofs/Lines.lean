import Propositional.Formula.Written
import Propositional.Table.Written

set_option autoImplicit false

/-!
# Lines

A text of ended lines falls back into them, provided that no line end stands inside of one.
Quotation takes every control character out of a text, the line ends among them, so what is
quoted stays on one line whatever it holds.
-/

namespace Propositional

namespace Text

/-! ## Up to a mark -/

section

variable {α : Type} [BEq α] [LawfulBEq α] {mark : α} {front other rest more : List α}

theorem bne_of_not_mem (free : mark ∉ front) : ∀ a ∈ front, (a != mark) = true := by
  intro a member
  exact bne_iff_ne.2 (ne_of_mem_of_not_mem member free)

/-- What was put in front of a mark is found again. -/
theorem takeWhile_append_mark (free : mark ∉ front) (rest : List α) :
    (front ++ mark :: rest).takeWhile (· != mark) = front := by
  have stop : (mark :: rest).takeWhile (· != mark) = [] := List.takeWhile_cons_of_neg (by simp)
  rw [List.takeWhile_append_of_pos (bne_of_not_mem free), stop, List.append_nil]

/-- So is what was put behind it. -/
theorem dropWhile_append_mark (free : mark ∉ front) (rest : List α) :
    (front ++ mark :: rest).dropWhile (· != mark) = mark :: rest := by
  rw [List.dropWhile_append_of_pos (bne_of_not_mem free)]
  exact List.dropWhile_cons_of_neg (by simp)

/-- Two lists are told apart by what they have up to a mark. -/
theorem append_mark_inj (free : mark ∉ front) (freeOther : mark ∉ other)
    (same : front ++ mark :: rest = other ++ mark :: more) : front = other ∧ rest = more := by
  have fronts := congrArg (List.takeWhile (· != mark)) same
  rw [takeWhile_append_mark free, takeWhile_append_mark freeOther] at fronts
  subst fronts
  exact ⟨rfl, (List.cons.inj (List.append_cancel_left same)).2⟩

end

/-! ## Line ends -/

/-- The lines of a text, unless the last one is not ended. -/
def lines? (s : String) : Option (List String) :=
  let pieces := s.toList.splitOn '\n'
  if pieces.getLast? = some [] then some (pieces.dropLast.map String.ofList) else none

@[simp] theorem unlines_nil : unlines [] = "" := rfl

theorem unlines_cons (line : String) (rest : List String) :
    unlines (line :: rest) = line ++ "\n" ++ unlines rest := by
  rw [unlines, List.map_cons, String.join_cons]
  rfl

theorem unlines_append (front back : List String) :
    unlines (front ++ back) = unlines front ++ unlines back := by
  induction front with
  | nil => rw [List.nil_append, unlines_nil, String.empty_append]
  | cons line rest ih =>
    rw [List.cons_append, unlines_cons, unlines_cons, ih, ← String.append_assoc]

/-- Behind the last line end there is nothing. -/
theorem splitOn_unlines {ls : List String} (inside : ∀ line ∈ ls, '\n' ∉ line.toList) :
    (unlines ls).toList.splitOn '\n' = ls.map String.toList ++ [[]] := by
  induction ls with
  | nil => rfl
  | cons line rest ih =>
    obtain ⟨first, others⟩ := List.forall_mem_cons.1 inside
    have free : ∀ c ∈ line.toList, (c == '\n') = false := by
      intro c member
      exact beq_eq_false_iff_ne.2 (ne_of_mem_of_not_mem member first)
    have parts : (unlines (line :: rest)).toList = line.toList ++ '\n' :: (unlines rest).toList := by
      rw [unlines_cons, String.toList_append, String.toList_append, List.append_assoc]
      rfl
    rw [parts, List.splitOn, List.splitOnP_append_cons_of_forall_mem free '\n' (beq_self_eq_true _),
      List.map_cons, List.cons_append]
    exact congrArg _ (ih others)

theorem lines?_unlines {ls : List String} (inside : ∀ line ∈ ls, '\n' ∉ line.toList) :
    lines? (unlines ls) = some ls := by
  have back : String.ofList ∘ String.toList = id := funext fun _ => String.ofList_toList
  simp only [lines?, splitOn_unlines inside, List.getLast?_concat, List.dropLast_concat,
    List.map_map, back, List.map_id, if_true]

/-! ## Control characters -/

/-- The characters of the Unicode category Cc. -/
def IsControl (c : Char) : Prop := c.toNat < 0x20 ∨ (0x7F ≤ c.toNat ∧ c.toNat ≤ 0x9F)

instance (c : Char) : Decidable (IsControl c) :=
  inferInstanceAs (Decidable (_ ∨ _))

/-- No control character is in the text. -/
def Clean (s : String) : Prop := ∀ c ∈ s.toList, ¬ IsControl c

instance (s : String) : Decidable (Clean s) :=
  List.decidableBAll (fun c => ¬ IsControl c) s.toList

theorem Clean.newline_not_mem {s : String} (clean : Clean s) : '\n' ∉ s.toList := by
  intro member
  exact clean '\n' member (by decide)

@[simp] theorem clean_append {s t : String} : Clean (s ++ t) ↔ Clean s ∧ Clean t := by
  unfold Clean
  rw [String.toList_append, List.forall_mem_append]

theorem clean_join {texts : List String} (clean : ∀ s ∈ texts, Clean s) :
    Clean (String.join texts) := by
  intro c member
  rw [String.toList_join] at member
  obtain ⟨s, among, inside⟩ := List.mem_flatMap.1 member
  exact clean s among c inside

theorem clean_intercalate {separator : String} (clear : Clean separator) {texts : List String}
    (clean : ∀ s ∈ texts, Clean s) : Clean (separator.intercalate texts) := by
  induction texts with
  | nil =>
    intro c none
    cases none
  | cons first rest ih =>
    obtain ⟨head, others⟩ := List.forall_mem_cons.1 clean
    cases rest with
    | nil => simpa using head
    | cons second more =>
      rw [String.intercalate_cons_cons]
      simp [head, clear, ih others]

theorem lines?_unlines_of_clean {ls : List String} (clean : ∀ line ∈ ls, Clean line) :
    lines? (unlines ls) = some ls :=
  lines?_unlines fun line among => (clean line among).newline_not_mem

/-! ## Quotation -/

theorem not_isControl_hexDigit {n : Nat} (small : n < 16) : ¬ IsControl (hexDigit n) := by
  have all : ∀ k < 16, ¬ IsControl (hexDigit k) := by decide
  exact all n small

/-- A number to base sixteen consists of digits. -/
theorem exists_hexDigit_of_mem {c : Char} {n : Nat} (member : c ∈ hexadecimal n) :
    ∃ k < 16, c = hexDigit k := by
  fun_induction hexadecimal n with
  | case1 n small => exact ⟨n, small, List.mem_singleton.1 member⟩
  | case2 n large ih =>
    rcases List.mem_append.1 member with higher | lowest
    · exact ih higher
    · exact ⟨n % 16, Nat.mod_lt n (by decide), List.mem_singleton.1 lowest⟩

theorem not_isControl_hexadecimal {c : Char} {n : Nat} (member : c ∈ hexadecimal n) :
    ¬ IsControl c := by
  obtain ⟨k, small, rfl⟩ := exists_hexDigit_of_mem member
  exact not_isControl_hexDigit small

theorem not_isControl_shortEscape {c letter : Char} (h : shortEscape? c = some letter) :
    ¬ IsControl letter := by
  unfold shortEscape? at h
  split at h <;> cases h <;> decide

/-- A control character shows nothing. -/
theorem isUnprintable_of_isControl {c : Char} (h : IsControl c) : isUnprintable c = true := by
  rcases h with low | ⟨low, high⟩
  · exact isUnprintable_of_lt_space low
  · exact isUnprintable_of_delete low high

/-- No escape makes use of a control character. -/
theorem not_isControl_escape {c d : Char} (member : d ∈ escape c) : ¬ IsControl d := by
  unfold escape at member
  split at member
  · rename_i letter short
    simp only [List.mem_cons, List.not_mem_nil, or_false] at member
    rcases member with rfl | rfl
    · decide
    · exact not_isControl_shortEscape short
  · split at member
    · simp only [List.mem_cons, List.mem_append, List.not_mem_nil, or_false] at member
      rcases member with rfl | rfl | rfl | digit | rfl
      · decide
      · decide
      · decide
      · exact not_isControl_hexadecimal digit
      · decide
    · rename_i visible
      rw [List.mem_singleton.1 member]
      intro control
      exact visible (Bool.or_eq_true_iff.2 (.inr (isUnprintable_of_isControl control)))

/-- Whatever is in a text, quoted it is free of control characters. -/
theorem clean_quoted (s : String) : Clean (quoted s) := by
  have mark : ¬ IsControl '"' := by decide
  intro c member
  simp only [quoted, String.toList_ofList, List.mem_cons, List.mem_append, List.mem_flatMap,
    List.not_mem_nil, or_false] at member
  rcases member with rfl | ⟨d, _, escaped⟩ | rfl
  · exact mark
  · exact not_isControl_escape escaped
  · exact mark

theorem clean_quotedList (texts : List String) : Clean (quotedList texts) := by
  have separator : Clean ", " := by decide
  have brackets : Clean "[" ∧ Clean "]" := by decide
  have inner : ∀ s ∈ texts.map quoted, Clean s := List.forall_mem_map.2 fun s _ => clean_quoted s
  simp [quotedList, brackets, clean_intercalate separator inner]

end Text

/-- Names are quoted in the structural form, so that none of them puts a control character
into it. -/
theorem Formula.clean_structural (f : Formula) : Text.Clean f.structural := by
  induction f with
  | var name =>
    have around : Text.Clean "Variable(" ∧ Text.Clean ")" := by decide
    simp [structural, around, Text.clean_quoted]
  | const value => cases value <;> decide
  | not operand ih =>
    have around : Text.Clean "Not(" ∧ Text.Clean ")" := by decide
    simp [structural, around, ih]
  | binary c left right ihLeft ihRight =>
    have name : Text.Clean c.name := by cases c <;> decide
    have around : Text.Clean "(" ∧ Text.Clean ", " ∧ Text.Clean ")" := by decide
    simp [structural, name, around, ihLeft, ihRight]

end Propositional
