import Propositional.Connective
import Propositional.Text.Quoted

set_option autoImplicit false

/-!
# Tokens

What a single word of an expression stands for.  Parentheses count only as words
of their own; keywords may be written in any mixture of ASCII cases, or as the
symbol of a connective; a name is a word of ASCII letters that is no keyword.
-/

namespace Propositional

/-- What a word stands for. -/
inductive Token where
  /-- The negation keyword. -/
  | not
  /-- A truth value. -/
  | literal (value : Bool)
  /-- A binary connective. -/
  | connective (c : Connective)
  /-- The opening parenthesis. -/
  | opening
  /-- The closing parenthesis. -/
  | closing
  /-- The name of a variable. -/
  | name (word : String)
  /-- A word with no meaning. -/
  | unknown (word : String)
  deriving DecidableEq, Repr

namespace Token

/-- The keywords in lower case, and the symbols of the connectives. -/
def keywords : List (String × Token) := [
  ("not", .not),
  ("true", .literal true),
  ("false", .literal false),
  ("and", .connective .and),
  ("∧", .connective .and),
  ("or", .connective .or),
  ("∨", .connective .or),
  ("xor", .connective .xor),
  ("⊕", .connective .xor),
  ("imply", .connective .imply),
  ("→", .connective .imply),
  ("eq", .connective .equal),
  ("=", .connective .equal),
  ("neq", .connective .notEqual),
  ("≠", .connective .notEqual)]

/-- The word with its ASCII letters in lower case. -/
def lowercase (word : String) : String := String.ofList (word.toList.map Char.toLower)

/-- What a word means as a keyword: as it is spelled, or else in lower case. -/
def keyword? (word : String) : Option Token :=
  (keywords.lookup word).or (keywords.lookup (lowercase word))

/-- The word may name a variable. -/
def isName (word : String) : Bool :=
  !word.isEmpty && word.toList.all Char.isAlpha && (keyword? word).isNone

/-- What a word stands for.  A keyword never names a variable. -/
def ofWord (word : String) : Token :=
  if word = "(" then .opening
  else if word = ")" then .closing
  else
    match keyword? word with
    | some token => token
    | none => if isName word then .name word else .unknown word

/-- The structural form, with the words in quotation marks. -/
def structural : Token → String
  | .not => "Not"
  | .literal value => "Literal(" ++ toString value ++ ")"
  | .connective c => "Op(" ++ c.name ++ ")"
  | .opening => "LParen"
  | .closing => "RParen"
  | .name word => "Variable(" ++ Text.quoted word ++ ")"
  | .unknown word => "Unknown(" ++ Text.quoted word ++ ")"

@[simp] theorem ofWord_opening : ofWord "(" = .opening := by
  simp [ofWord]

@[simp] theorem ofWord_closing : ofWord ")" = .closing := by
  simp [ofWord]

theorem keyword?_opening : keyword? "(" = none := by
  decide

theorem keyword?_closing : keyword? ")" = none := by
  decide

/-- A keyword is taken for what it means. -/
theorem ofWord_of_keyword? {word : String} {token : Token} (h : keyword? word = some token) :
    ofWord word = token := by
  have opening : word ≠ "(" := by
    rintro rfl
    rw [keyword?_opening] at h
    cases h
  have closing : word ≠ ")" := by
    rintro rfl
    rw [keyword?_closing] at h
    cases h
  simp [ofWord, opening, closing, h]

/-- A name is taken for itself. -/
theorem ofWord_of_isName {word : String} (h : isName word = true) : ofWord word = .name word := by
  have opening : word ≠ "(" := by
    rintro rfl
    exact absurd h (by decide)
  have closing : word ≠ ")" := by
    rintro rfl
    exact absurd h (by decide)
  have plain : keyword? word = none := by
    simp only [isName, Bool.and_eq_true] at h
    exact Option.isNone_iff_eq_none.1 h.2
  simp [ofWord, opening, closing, plain, h]

/-- A name consists of letters. -/
theorem toList_of_isName {word : String} (h : isName word = true) :
    word.toList ≠ [] ∧ ∀ c ∈ word.toList, c.isAlpha = true := by
  simp only [isName, Bool.and_eq_true, Bool.not_eq_true', List.all_eq_true] at h
  refine ⟨?_, h.1.2⟩
  intro empty
  have none : word = "" := String.toList_eq_nil_iff.1 empty
  rw [none] at h
  exact absurd h.1.1 (by decide)

/-- What a spelling is looked up to mean is listed with it. -/
theorem mem_keywords_of_lookup {spelling : String} {token : Token}
    (found : keywords.lookup spelling = some token) : (spelling, token) ∈ keywords := by
  obtain ⟨before, behind, parts, _⟩ := List.lookup_eq_some_iff.1 found
  rw [parts]
  exact List.mem_append_right before List.mem_cons_self

/-- What a keyword means stands in the list of keywords. -/
theorem mem_keywords_of_keyword? {word : String} {token : Token}
    (h : keyword? word = some token) : ∃ spelling : String, (spelling, token) ∈ keywords := by
  rcases Option.or_eq_some_iff.1 h with found | ⟨_, found⟩
  · exact ⟨word, mem_keywords_of_lookup found⟩
  · exact ⟨lowercase word, mem_keywords_of_lookup found⟩

/-- No keyword stands for a name. -/
theorem keyword?_ne_name {word x : String} : keyword? word ≠ some (.name x) := by
  intro h
  obtain ⟨spelling, listed⟩ := mem_keywords_of_keyword? h
  simp [keywords] at listed

/-- Nothing but the parentheses themselves is taken for one of them. -/
theorem ofWord_ne_parenthesis {word : String} (opening : word ≠ "(") (closing : word ≠ ")") :
    ofWord word ≠ .opening ∧ ofWord word ≠ .closing := by
  simp only [ofWord, if_neg opening, if_neg closing]
  split
  · rename_i token found
    obtain ⟨spelling, listed⟩ := mem_keywords_of_keyword? found
    refine ⟨?_, ?_⟩
    · rintro rfl
      simp [keywords] at listed
    · rintro rfl
      simp [keywords] at listed
  · split
    · exact ⟨Token.noConfusion, Token.noConfusion⟩
    · exact ⟨Token.noConfusion, Token.noConfusion⟩

theorem ofWord_eq_opening_iff {word : String} : ofWord word = .opening ↔ word = "(" := by
  constructor
  · intro token
    by_cases opening : word = "("
    · exact opening
    · by_cases closing : word = ")"
      · rw [closing, ofWord_closing] at token
        cases token
      · exact absurd token (ofWord_ne_parenthesis opening closing).1
  · rintro rfl
    exact ofWord_opening

theorem ofWord_eq_closing_iff {word : String} : ofWord word = .closing ↔ word = ")" := by
  constructor
  · intro token
    by_cases closing : word = ")"
    · exact closing
    · by_cases opening : word = "("
      · rw [opening, ofWord_opening] at token
        cases token
      · exact absurd token (ofWord_ne_parenthesis opening closing).2
  · rintro rfl
    exact ofWord_closing

/-- Only a name is taken for a name, and for itself. -/
theorem ofWord_eq_name_iff {word x : String} :
    ofWord word = .name x ↔ word = x ∧ isName x = true := by
  constructor
  · intro token
    simp only [ofWord] at token
    split at token
    · cases token
    · split at token
      · cases token
      · split at token
        · rename_i found
          subst token
          exact absurd found keyword?_ne_name
        · split at token
          · rename_i named
            obtain rfl := Token.name.inj token
            exact ⟨rfl, named⟩
          · cases token
  · rintro ⟨rfl, named⟩
    exact ofWord_of_isName named

end Token

end Propositional
