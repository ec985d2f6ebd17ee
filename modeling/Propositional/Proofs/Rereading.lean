import Propositional.Formula.Written
import Propositional.Proofs.Reports

set_option autoImplicit false

/-!
# Reading what was written

A formula written in symbols leaves no white space around its parentheses and negations, so
it is not read back as it stands.  With the white space put in, and the sign of negation
replaced by its keyword, its words are read to the last one and give the formula again.  No
two formulas with proper names are therefore written alike.
-/

namespace Propositional

namespace Text

/-- A character with white space on the inner side of a parenthesis, and negation as a
word. -/
def spacedChar : Char → List Char
  | '(' => ['(', ' ']
  | ')' => [' ', ')']
  | '¬' => ['n', 'o', 't', ' ']
  | c => [c]

/-- The text with each parenthesis set apart and negation spelled out. -/
def spaced (s : String) : String := String.ofList (s.toList.flatMap spacedChar)

theorem spacedChar_of_isAlpha {c : Char} (h : c.isAlpha = true) : spacedChar c = [c] := by
  unfold spacedChar
  split
  · exact absurd h (by decide)
  · exact absurd h (by decide)
  · exact absurd h (by decide)
  · rfl

/-- Letters of ASCII are left alone. -/
theorem flatMap_spacedChar_of_isAlpha {letters : List Char}
    (h : ∀ c ∈ letters, c.isAlpha = true) : letters.flatMap spacedChar = letters := by
  induction letters with
  | nil => rfl
  | cons c rest ih =>
    obtain ⟨first, others⟩ := List.forall_mem_cons.1 h
    rw [List.flatMap_cons, spacedChar_of_isAlpha first, ih others, List.singleton_append]

end Text

namespace Formula

/-- The words of a written formula. -/
def spelled : Formula → List String
  | .var name => [name]
  | .const value => [toString value]
  | .not operand => "not" :: operand.spelled
  | .binary c left right => "(" :: (left.spelled ++ c.symbol :: (right.spelled ++ [")"]))

/-- Every name of the formula can be written as one. -/
def Named (f : Formula) : Prop := ∀ x ∈ f.leaves, Token.isName x = true

instance (f : Formula) : Decidable f.Named :=
  inferInstanceAs (Decidable (∀ x ∈ f.leaves, Token.isName x = true))

theorem named_binary_iff {c : Connective} {left right : Formula} :
    Named (.binary c left right) ↔ left.Named ∧ right.Named :=
  List.forall_mem_append

end Formula

theorem Token.ofWord_symbol (c : Connective) : ofWord c.symbol = .connective c := by
  cases c <;> decide

theorem Token.ofWord_toString (value : Bool) : ofWord (toString value) = .literal value := by
  cases value <;> decide

namespace Formula

variable {f : Formula}

/-- The words of a formula derive it, as a factor. -/
theorem derives_spelled (named : f.Named) : Derives .factor (tokensOf f.spelled) f := by
  induction f with
  | var name =>
    have token : Token.ofWord name = .name name :=
      Token.ofWord_of_isName (named name (List.mem_singleton_self name))
    simpa [spelled, token] using Derives.name name
  | const value => simpa [spelled, Token.ofWord_toString] using Derives.literal value
  | not operand ih =>
    have negation : Token.ofWord "not" = .not := by decide
    simpa [spelled, negation] using (ih named).not
  | binary c left right ihLeft ihRight =>
    obtain ⟨namedLeft, namedRight⟩ := named_binary_iff.1 named
    have first := ihLeft namedLeft
    have second := ihRight namedRight
    simpa [spelled, Token.ofWord_symbol] using (Derives.join_factors c first second).group

/-- The characters of the formula in symbols, spaced. -/
def spacedDisplay (f : Formula) : List Char := f.display.toList.flatMap Text.spacedChar

theorem spacedDisplay_not (operand : Formula) :
    spacedDisplay (.not operand) = "not".toList ++ ' ' :: operand.spacedDisplay := by
  simp [spacedDisplay, display, Text.spacedChar]

theorem spacedDisplay_binary (c : Connective) (left right : Formula) :
    spacedDisplay (.binary c left right) = "(".toList ++ ' ' :: (left.spacedDisplay ++
      ' ' :: (c.symbol.toList ++ ' ' :: (right.spacedDisplay ++ ' ' :: ")".toList))) := by
  have symbol : c.symbol.toList.flatMap Text.spacedChar = c.symbol.toList := by
    cases c <;> decide
  simp [spacedDisplay, display, symbol, Text.spacedChar]

/-- They fall apart into the words of the formula. -/
theorem wordsFrom_spacedDisplay (named : f.Named) :
    Text.wordsFrom [] f.spacedDisplay = f.spelled.map String.toList := by
  have blank : Text.isBlank ' ' = true := by decide
  induction f with
  | var name =>
    obtain ⟨nonempty, letters⟩ := Token.toList_of_isName (named name (List.mem_singleton_self name))
    rw [spacedDisplay, display, Text.flatMap_spacedChar_of_isAlpha letters]
    exact Text.wordsFrom_nil_of_letters nonempty fun c hc => Text.isBlank_of_isAlpha (letters c hc)
  | const value => cases value <;> decide
  | not operand ih =>
    have negation : Text.wordsFrom [] "not".toList = ["not".toList] := by decide
    rw [spacedDisplay_not, Text.wordsFrom_append_blank blank, negation, ih named]
    rfl
  | binary c left right ihLeft ihRight =>
    obtain ⟨namedLeft, namedRight⟩ := named_binary_iff.1 named
    have first := ihLeft namedLeft
    have second := ihRight namedRight
    have opening : Text.wordsFrom [] "(".toList = ["(".toList] := by decide
    have closing : Text.wordsFrom [] ")".toList = [")".toList] := by decide
    have symbol : Text.wordsFrom [] c.symbol.toList = [c.symbol.toList] := by
      cases c <;> decide
    simp only [spacedDisplay_binary, Text.wordsFrom_append_blank blank, opening, first, symbol,
      second, closing]
    simp [spelled]

/-- The words of a formula in symbols, spaced. -/
theorem words_spaced_display (named : f.Named) :
    Text.words (Text.spaced f.display) = f.spelled := by
  have back : String.ofList ∘ String.toList = id := funext fun _ => String.ofList_toList
  unfold Text.words Text.spaced
  rw [String.toList_ofList]
  change (Text.wordsFrom [] f.spacedDisplay).map String.ofList = f.spelled
  rw [wordsFrom_spacedDisplay named, List.map_map, back, List.map_id]

/-- The words are those of an expression, the one that was written. -/
theorem readsWhole_spaced_display (named : f.Named) :
    Parse.ReadsWhole (Text.words (Text.spaced f.display)) f := by
  rw [words_spaced_display named]
  exact Parse.readsWhole_iff_derives.2 (.single (.single (derives_spelled named)))

/-- A formula with proper names, written in symbols and spaced, is read back to the last
word and without a warning.  Formulas with proper names that are written alike are equal. -/
theorem ofText_spaced_display (f : Formula) (named : f.Named) :
    ofText (Text.spaced f.display) = .ok f ∧
    (Parse.ofText (Text.spaced f.display)).taken =
      (Text.words (Text.spaced f.display)).length ∧
    (∀ event ∈ (Parse.ofText (Text.spaced f.display)).events, event.severity ≠ .warn) ∧
    ∀ g : Formula, g.Named → g.display = f.display → g = f := by
  have whole := readsWhole_spaced_display named
  refine ⟨whole.1, whole.2, Parse.severity_ne_warn_of_readsWhole whole, ?_⟩
  intro g namedToo same
  have other := readsWhole_spaced_display namedToo
  rw [same] at other
  exact Except.ok.inj (other.1.symm.trans whole.1)

/-- Comparisons inside logical connectives and under a negation keep their parentheses. -/
theorem ofText_spaced_display_mixed :
    Named (.not (.binary .imply (.binary .notEqual (.var "a") (.not (.var "b"))) (.const true))) ∧
      ofText "not ( ( a ≠ not b ) → true )" =
        .ok (.not (.binary .imply (.binary .notEqual (.var "a") (.not (.var "b")))
          (.const true))) := by
  have named : Named (.not (.binary .imply (.binary .notEqual (.var "a") (.not (.var "b")))
      (.const true))) := by decide
  exact ⟨named, (ofText_spaced_display _ named).1⟩

end Formula

end Propositional
