import Mathlib.Data.List.Basic
import Propositional.Proofs.Lines
import Propositional.Proofs.Rereading
import Propositional.Proofs.Rows

set_option autoImplicit false

/-!
# Printed tables

A proper name is made of letters, and stays so in upper case.  Hence neither the heading of a
table nor a formula in symbols has a line end in it when the names are proper, and the table
is split back into its lines.
-/

namespace Propositional

namespace Text

/-! ## Letters -/

/-- What holds of each of the 52 letters of ASCII holds of every letter. -/
theorem forall_letter {P : Char → Prop}
    (each : ∀ code ∈ List.range' 65 26 ++ List.range' 97 26, P (Char.ofNat code)) (c : Char)
    (letter : c.isAlpha = true) : P c := by
  have listed : c.toNat ∈ List.range' 65 26 ++ List.range' 97 26 := by
    have range := range_of_isAlpha letter
    simp only [List.mem_append, List.mem_range'_1]
    omega
  have here := each c.toNat listed
  rwa [Char.ofNat_toNat] at here

theorem not_isControl_of_isAlpha : ∀ c : Char, c.isAlpha = true → ¬ IsControl c :=
  forall_letter (P := fun c => ¬ IsControl c) (by decide)

theorem isAlpha_toUpper : ∀ c : Char, c.isAlpha = true → c.toUpper.isAlpha = true :=
  forall_letter (P := fun c => c.toUpper.isAlpha = true) (by decide)

/-- In ASCII the upper case of a letter is a single one. -/
theorem upperChar_of_isAlpha : ∀ c : Char, c.isAlpha = true → upperChar c = [c.toUpper] :=
  forall_letter (P := fun c => upperChar c = [c.toUpper]) (by decide +kernel)

theorem uppercase_of_letters {s : String} (letters : ∀ c ∈ s.toList, c.isAlpha = true) :
    uppercase s = String.ofList (s.toList.map Char.toUpper) := by
  have each : s.toList.flatMap upperChar = s.toList.flatMap fun c => [c.toUpper] :=
    List.flatMap_congr fun c member => upperChar_of_isAlpha c (letters c member)
  rw [uppercase, each, ← List.map_eq_flatMap]

theorem clean_of_letters {s : String} (letters : ∀ c ∈ s.toList, c.isAlpha = true) : Clean s := by
  intro c member
  exact not_isControl_of_isAlpha c (letters c member)

theorem clean_uppercase {s : String} (letters : ∀ c ∈ s.toList, c.isAlpha = true) :
    Clean (uppercase s) := by
  rw [uppercase_of_letters letters]
  refine clean_of_letters ?_
  rw [String.toList_ofList]
  exact List.forall_mem_map.2 fun c member => isAlpha_toUpper c (letters c member)

end Text

/-! ## Rows -/

theorem Row.clean_display (row : Row) : Text.Clean row.display := by
  have inputs : Text.Clean
      (String.join (row.inputs.map fun input => if input then "1 | " else "0 | ")) := by
    refine Text.clean_join (List.forall_mem_map.2 fun input _ => ?_)
    cases input <;> decide
  have result : Text.Clean (toString row.result) := by
    cases row.result <;> decide
  exact Text.clean_append.2 ⟨inputs, result⟩

namespace Formula

variable {f : Formula}

/-! ## Formulas with proper names -/

theorem clean_display (named : f.Named) : Text.Clean f.display := by
  induction f with
  | var name =>
    exact Text.clean_of_letters (Token.toList_of_isName (named name (List.mem_singleton_self name))).2
  | const value => cases value <;> decide
  | not operand ih =>
    have sign : Text.Clean "¬" := by decide
    simp [display, sign, ih named]
  | binary c left right ihLeft ihRight =>
    obtain ⟨namedLeft, namedRight⟩ := named_binary_iff.1 named
    have symbol : Text.Clean c.symbol := by cases c <;> decide
    have around : Text.Clean "(" ∧ Text.Clean " " ∧ Text.Clean ")" := by decide
    simp [display, symbol, around, ihLeft namedLeft, ihRight namedRight]

theorem clean_header (named : f.Named) : Text.Clean f.header := by
  have separator : Text.Clean " | " := by decide
  have last : Text.Clean "Result" := by decide
  refine Text.clean_intercalate separator (List.forall_mem_append.2 ⟨?_, ?_⟩)
  · refine List.forall_mem_map.2 fun name listed => ?_
    exact Text.clean_uppercase (Token.toList_of_isName (named name (mem_names.1 listed))).2
  · exact List.forall_mem_singleton.2 last

/-- No line of the table has another one in it. -/
theorem clean_tableLines (named : f.Named) : ∀ line ∈ f.tableLines, Text.Clean line := by
  have dash : ¬ Text.IsControl '-' := by decide
  refine List.forall_mem_cons.2 ⟨clean_header named, List.forall_mem_cons.2 ⟨?_, ?_⟩⟩
  · intro c member
    rw [String.toList_ofList] at member
    rw [List.eq_of_mem_replicate member]
    exact dash
  · exact List.forall_mem_map.2 fun row _ => row.clean_display

/-- Below the heading and the dashes there is a line for each assignment of the names. -/
theorem length_tableLines (narrow : f.names.length < 64) :
    f.tableLines.length = 2 + 2 ^ f.names.length := by
  rw [tableLines, List.length_cons, List.length_cons, List.length_map, length_toList_rows narrow]
  omega

end Formula

end Propositional
