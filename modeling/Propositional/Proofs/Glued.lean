import Propositional.Proofs.Faults
import Propositional.Proofs.Rereading
import Propositional.Proofs.Spacing
import Propositional.Proofs.Spelling

set_option autoImplicit false

/-!
# Reading a written formula as it stands

The signs that a formula in symbols begins with, opening parentheses and negations, stick to its
first leaf.  Together they are the first word, and it has no meaning: no keyword begins with such a
sign, and no name does.  So a leaf is all that is read back as it was written.  Any other formula is
turned down at its first word, and none is taken for another one.
-/

namespace Propositional

/-! ## Words that begin with a sign -/

namespace Token

variable {word : String} {sign : Char}

/-- An opening parenthesis, or the sign of negation. -/
def IsSign (c : Char) : Prop := c = '(' ∨ c = '¬'

instance (c : Char) : Decidable (IsSign c) :=
  inferInstanceAs (Decidable (_ ∨ _))

theorem head?_lowercase_of_isSign (isSign : IsSign sign) (first : word.toList.head? = some sign) :
    (lowercase word).toList.head? = some sign := by
  have plain : sign.toLower = sign := by
    rcases isSign with rfl | rfl
    · decide
    · decide
  rw [lowercase, String.toList_ofList, List.head?_map, first, Option.map_some, plain]

/-- No keyword begins with a sign. -/
theorem keyword?_of_isSign (isSign : IsSign sign) (first : word.toList.head? = some sign) :
    keyword? word = none := by
  have others : ∀ entry ∈ keywords,
      entry.1.toList.head? ≠ some '(' ∧ entry.1.toList.head? ≠ some '¬' := by decide
  cases found : keyword? word with
  | none => rfl
  | some token =>
    obtain ⟨opening, negation⟩ := others _ (keyword?_eq_some_iff.1 found)
    have here := head?_lowercase_of_isSign isSign first
    rcases isSign with rfl | rfl
    · exact absurd here opening
    · exact absurd here negation

/-- No name begins with a sign. -/
theorem isName_of_isSign (isSign : IsSign sign) (first : word.toList.head? = some sign) :
    isName word = false := by
  refine Bool.eq_false_iff.2 fun named => ?_
  have letter := (toList_of_isName named).2 sign (List.mem_of_mem_head? first)
  rcases isSign with rfl | rfl
  · exact absurd letter (by decide)
  · exact absurd letter (by decide)

/-- Only the parenthesis alone means anything. -/
theorem ofWord_of_isSign (isSign : IsSign sign) (first : word.toList.head? = some sign)
    (longer : word ≠ "(") : ofWord word = .unknown word := by
  have closing : word ≠ ")" := by
    rintro rfl
    obtain rfl : ')' = sign := Option.some.inj first
    exact absurd isSign (by decide)
  simp [ofWord, longer, closing, keyword?_of_isSign isSign first, isName_of_isSign isSign first]

end Token

/-- Words that begin with a meaningless one are turned down there. -/
theorem Parse.outcome_of_unknown {word x : String} (token : Token.ofWord word = .unknown x)
    (rest : List String) :
    (Parse.ofWords (word :: rest)).outcome = .error (.unexpectedToken word) := by
  refine outcome_eq_error_of_run 1 ?_
  simp only [Scan.run, Scan.State.start, Scan.step, token]
  rfl

namespace Formula

variable {f : Formula}

/-! ## The first word -/

/-- The formula is a variable or a truth value. -/
def IsLeaf (f : Formula) : Prop := (∃ name, f = .var name) ∨ ∃ value, f = .const value

/-- The leftmost leaf. -/
def firstLeaf : Formula → Formula
  | .var name => .var name
  | .const value => .const value
  | .not operand => operand.firstLeaf
  | .binary _ left _ => left.firstLeaf

/-- The signs that are written in front of the leftmost leaf. -/
def signs : Formula → List Char
  | .var _ | .const _ => []
  | .not operand => '¬' :: operand.signs
  | .binary _ left _ => '(' :: left.signs

/-- The signs with the leaf that they stick to. -/
def firstWord (f : Formula) : String := String.ofList f.signs ++ f.firstLeaf.display

theorem isSign_of_mem_signs {c : Char} (member : c ∈ f.signs) : Token.IsSign c := by
  induction f with
  | var name => cases member
  | const value => cases member
  | not operand ih =>
    rcases List.mem_cons.1 member with rfl | later
    · exact .inr rfl
    · exact ih later
  | binary connective left right ih _ =>
    rcases List.mem_cons.1 member with rfl | later
    · exact .inl rfl
    · exact ih later

theorem isLeaf_iff_signs : f.IsLeaf ↔ f.signs = [] := by
  cases f <;> simp [IsLeaf, signs]

theorem firstLeaf_of_isLeaf (leaf : f.IsLeaf) : f.firstLeaf = f := by
  rcases leaf with ⟨name, rfl⟩ | ⟨value, rfl⟩
  · rfl
  · rfl

theorem isLeaf_firstLeaf (f : Formula) : f.firstLeaf.IsLeaf := by
  induction f with
  | var name => exact .inl ⟨name, rfl⟩
  | const value => exact .inr ⟨value, rfl⟩
  | not operand ih => exact ih
  | binary c left right ih _ => exact ih

theorem named_firstLeaf (named : f.Named) : f.firstLeaf.Named := by
  induction f with
  | var name => exact named
  | const value => exact named
  | not operand ih => exact ih named
  | binary c left right ih _ => exact ih (named_binary_iff.1 named).1

theorem firstWord_of_isLeaf (leaf : f.IsLeaf) : f.firstWord = f.display := by
  rw [firstWord, isLeaf_iff_signs.1 leaf, firstLeaf_of_isLeaf leaf, String.ofList_nil,
    String.empty_append]

theorem firstWord_not (operand : Formula) :
    firstWord (.not operand) = "¬" ++ operand.firstWord := by
  rw [← String.toList_inj]
  simp [firstWord, signs, firstLeaf]

theorem firstWord_binary (c : Connective) (left right : Formula) :
    firstWord (.binary c left right) = "(" ++ left.firstWord := by
  rw [← String.toList_inj]
  simp [firstWord, signs, firstLeaf]

/-- A written formula goes on behind its first word with a blank, if it goes on at all. -/
theorem exists_display_eq (f : Formula) :
    ∃ rest : String, f.display = f.firstWord ++ rest ∧ (rest = "" ∨ ∃ more, rest = " " ++ more) := by
  induction f with
  | var name =>
    refine ⟨"", ?_, .inl rfl⟩
    rw [firstWord_of_isLeaf (.inl ⟨name, rfl⟩), String.append_empty]
  | const value =>
    refine ⟨"", ?_, .inl rfl⟩
    rw [firstWord_of_isLeaf (.inr ⟨value, rfl⟩), String.append_empty]
  | not operand ih =>
    obtain ⟨rest, whole, gap⟩ := ih
    refine ⟨rest, ?_, gap⟩
    rw [display, whole, firstWord_not, String.append_assoc]
  | binary c left right ih _ =>
    obtain ⟨rest, whole, gap⟩ := ih
    refine ⟨rest ++ (" " ++ (c.symbol ++ " " ++ right.display ++ ")")), ?_, .inr ?_⟩
    · rw [display, whole, firstWord_binary]
      simp only [String.append_assoc]
    · rcases gap with rfl | ⟨more, rfl⟩
      · exact ⟨_, String.empty_append⟩
      · exact ⟨_, String.append_assoc⟩

theorem isWord_display_of_isLeaf (leaf : f.IsLeaf) (named : f.Named) : Text.IsWord f.display := by
  rcases leaf with ⟨name, rfl⟩ | ⟨value, rfl⟩
  · obtain ⟨nonempty, letters⟩ := Token.toList_of_isName (named name (List.mem_singleton_self name))
    exact ⟨mt String.toList_eq_nil_iff.2 nonempty,
      fun c member => Text.isBlank_of_isAlpha (letters c member)⟩
  · cases value <;> decide

theorem isWord_firstWord (named : f.Named) : Text.IsWord f.firstWord := by
  obtain ⟨nonempty, letters⟩ :=
    isWord_display_of_isLeaf (isLeaf_firstLeaf f) (named_firstLeaf named)
  refine ⟨fun empty => nonempty (String.append_eq_empty_iff.1 empty).2, ?_⟩
  have signs : ∀ c ∈ f.signs, Text.isBlank c = false := by
    intro c member
    rcases isSign_of_mem_signs member with rfl | rfl
    · decide
    · decide
  rw [firstWord, String.toList_append, String.toList_ofList]
  exact List.forall_mem_append.2 ⟨signs, letters⟩

theorem exists_words_display_eq (named : f.Named) :
    ∃ rest : List String, Text.words f.display = f.firstWord :: rest := by
  have first := Text.words_of_isWord (isWord_firstWord named)
  obtain ⟨rest, whole, rfl | ⟨more, rfl⟩⟩ := exists_display_eq f
  · exact ⟨[], by rw [whole, String.append_empty, first]⟩
  · have blank : Text.Blank " " := by decide
    refine ⟨Text.words more, ?_⟩
    rw [whole, ← String.append_assoc, Text.words_append_gap_append blank (by decide), first]
    rfl

/-! ## Reading it -/

/-- With signs before it, the first word has no meaning. -/
theorem ofWord_firstWord (named : f.Named) (inner : ¬ f.IsLeaf) :
    Token.ofWord f.firstWord = .unknown f.firstWord := by
  have nonempty := (isWord_display_of_isLeaf (isLeaf_firstLeaf f) (named_firstLeaf named)).1
  obtain ⟨sign, others, signs⟩ := List.exists_cons_of_ne_nil (mt isLeaf_iff_signs.2 inner)
  have isSign : Token.IsSign sign := isSign_of_mem_signs (signs ▸ List.mem_cons_self)
  have letters : f.firstWord.toList = sign :: (others ++ f.firstLeaf.display.toList) := by
    rw [firstWord, String.toList_append, String.toList_ofList, signs, List.cons_append]
  refine Token.ofWord_of_isSign isSign (by rw [letters, List.head?_cons]) ?_
  intro alone
  rw [alone] at letters
  have none : [] = others ++ f.firstLeaf.display.toList := (List.cons.inj letters).2
  exact nonempty (String.toList_eq_nil_iff.1 (List.append_eq_nil_iff.1 none.symm).2)

theorem ofText_display_of_isLeaf (leaf : f.IsLeaf) (named : f.Named) :
    ofText f.display = .ok f := by
  have spelled : f.spelled = [f.display] := by
    rcases leaf with ⟨name, rfl⟩ | ⟨value, rfl⟩
    · rfl
    · rfl
  have whole : Parse.ReadsWhole f.spelled f :=
    Parse.readsWhole_iff_derives.2 (.single (.single (derives_spelled named)))
  rw [ofText, Parse.ofText, Text.words_of_isWord (isWord_display_of_isLeaf leaf named), ← spelled]
  exact whole.1

/-- A variable or a truth value is read back as it was written.  Any other formula with proper names
is turned down at its first word, which is made of its leading parentheses and negations and its
leftmost leaf.  What is written of one formula is never read as another. -/
theorem ofText_display (f : Formula) (named : f.Named) :
    (f.IsLeaf → ofText f.display = .ok f) ∧
    (¬ f.IsLeaf → f.signs ≠ [] ∧ (∀ c ∈ f.signs, c = '(' ∨ c = '¬') ∧ f.firstLeaf.IsLeaf ∧
      (Text.words f.display).head? = some (String.ofList f.signs ++ f.firstLeaf.display) ∧
      (ofText f.display).mapError SyntaxError.reason =
        .error ("unexpected token: " ++ (String.ofList f.signs ++ f.firstLeaf.display))) ∧
    ∀ g : Formula, ofText f.display = .ok g → g = f := by
  obtain ⟨rest, words⟩ := exists_words_display_eq named
  have refused (inner : ¬ f.IsLeaf) : ofText f.display = .error (.unexpectedToken f.firstWord) := by
    rw [ofText, Parse.ofText, words]
    exact Parse.outcome_of_unknown (ofWord_firstWord named inner) rest
  refine ⟨fun leaf => ofText_display_of_isLeaf leaf named, fun inner => ?_, fun g read => ?_⟩
  · refine ⟨mt isLeaf_iff_signs.2 inner, fun c => isSign_of_mem_signs, isLeaf_firstLeaf f, ?_, ?_⟩
    · rw [words]
      rfl
    · rw [refused inner]
      rfl
  · by_cases leaf : f.IsLeaf
    · rw [ofText_display_of_isLeaf leaf named] at read
      exact (Except.ok.inj read).symm
    · rw [refused leaf] at read
      cases read

/-- The negation and the parenthesis are quoted with the leaf. -/
theorem ofText_display_negation :
    Named (.not (.binary .and (.var "a") (.not (.const true)))) ∧
      ¬ IsLeaf (.not (.binary .and (.var "a") (.not (.const true)))) ∧
      (ofText "¬(a ∧ ¬true)").mapError SyntaxError.reason = .error "unexpected token: ¬(a" ∧
      Named (.var "b") ∧ IsLeaf (.var "b") ∧ ofText "b" = .ok (.var "b") := by
  have named : Named (.not (.binary .and (.var "a") (.not (.const true)))) := by decide
  have inner : ¬ IsLeaf (.not (.binary .and (.var "a") (.not (.const true)))) := by simp [IsLeaf]
  obtain ⟨_, _, _, _, fault⟩ := (ofText_display _ named).2.1 inner
  have namedLeaf : Named (.var "b") := by decide
  have leaf : IsLeaf (.var "b") := .inl ⟨"b", rfl⟩
  exact ⟨named, inner, fault, namedLeaf, leaf, (ofText_display _ namedLeaf).1 leaf⟩

end Formula

end Propositional
