import Propositional.Proofs.Kinds

set_option autoImplicit false

/-!
# Spellings

A word is looked up as it stands, and then in lower case.  As the keywords are listed in lower
case, the second look finds all that the first one does: a keyword is told by its lower case alone,
and in whatever cases it is written, it is no name.

So a keyword may be spelled in any other way that there is for it, and a name may be put in the
place of another one, and reading goes on as before.
-/

namespace Propositional

namespace Token

variable {word other : String} {token : Token}

/-- The words spell the same keyword: in lower case, both are listed for it. -/
def SameKeyword (word other : String) : Prop :=
  ∃ token : Token, (lowercase word, token) ∈ keywords ∧ (lowercase other, token) ∈ keywords

/-- The words for the connectives, each with the symbol besides it and what both stand for. -/
def symbols : List (String × String × Connective) := [
  ("and", "∧", .and), ("or", "∨", .or), ("xor", "⊕", .xor),
  ("imply", "→", .imply), ("eq", "=", .equal), ("neq", "≠", .notEqual)]

/-- The second word is the first one, or spells the same keyword. -/
def Respelled (word other : String) : Prop := other = word ∨ SameKeyword word other

/-! ## Looking keywords up -/

/-- Each spelling is listed for one keyword only. -/
theorem lookup_keywords : ∀ entry ∈ keywords, keywords.lookup entry.1 = some entry.2 := by
  decide

theorem lowercase_keywords : ∀ entry ∈ keywords, lowercase entry.1 = entry.1 := by
  decide

theorem lookup_keywords_eq_some_iff :
    keywords.lookup word = some token ↔ (word, token) ∈ keywords :=
  ⟨mem_keywords_of_lookup, lookup_keywords (word, token)⟩

/-- A word means what its lower case is listed for. -/
theorem keyword?_eq_some_iff :
    keyword? word = some token ↔ (lowercase word, token) ∈ keywords := by
  rw [keyword?, Option.or_eq_some_iff, lookup_keywords_eq_some_iff, lookup_keywords_eq_some_iff]
  constructor
  · rintro (listed | ⟨_, listed⟩)
    · rw [lowercase_keywords (word, token) listed]
      exact listed
    · exact listed
  · intro listed
    cases asSpelled : keywords.lookup word with
    | none => exact .inr ⟨rfl, listed⟩
    | some found =>
      have same : lowercase word = word :=
        lowercase_keywords (word, found) (mem_keywords_of_lookup asSpelled)
      refine .inl ?_
      rw [← same]
      exact listed

/-! ## Keywords and names -/

theorem isName_iff_ofWord : isName word = true ↔ ofWord word = .name word := by
  rw [ofWord_eq_name_iff]
  exact (and_iff_right rfl).symm

/-- In whatever cases it is written, a keyword is no name. -/
theorem isName_eq_false_of_lowercase_eq (same : lowercase other = lowercase word)
    (keyword : keyword? word = some token) : isName other = false := by
  have listed : (lowercase other, token) ∈ keywords := by
    rw [same]
    exact keyword?_eq_some_iff.1 keyword
  rw [isName, keyword?_eq_some_iff.2 listed, Option.isNone_some, Bool.and_false]

/-- A connective has a word and a symbol. -/
theorem sameKeyword_of_mem_symbols {symbol : String} {c : Connective}
    (listed : (word, symbol, c) ∈ symbols) :
    keyword? word = some (.connective c) ∧ SameKeyword word symbol := by
  have all : ∀ entry ∈ symbols, keyword? entry.1 = some (.connective entry.2.2) ∧
      keyword? entry.2.1 = some (.connective entry.2.2) := by decide
  obtain ⟨spelled, symbolic⟩ := all _ listed
  exact ⟨spelled, .connective c, keyword?_eq_some_iff.1 spelled, keyword?_eq_some_iff.1 symbolic⟩

/-- Words that spell the same keyword stand for the same token. -/
theorem ofWord_of_respelled (respelled : Respelled word other) : ofWord other = ofWord word := by
  rcases respelled with rfl | ⟨token, listed, listedOther⟩
  · rfl
  · rw [ofWord_of_keyword? (keyword?_eq_some_iff.2 listed),
      ofWord_of_keyword? (keyword?_eq_some_iff.2 listedOther)]

end Token

/-! ## Other spellings -/

namespace Parse

variable {words others : List String}

theorem tokensOf_of_respelled (respelled : List.Forall₂ Token.Respelled words others) :
    tokensOf others = tokensOf words := by
  induction respelled with
  | nil => rfl
  | cons first _ ih =>
    rw [tokensOf, List.map_cons, Token.ofWord_of_respelled first]
    exact congrArg _ ih

/-- Keywords in other spellings are read as the same. -/
theorem ofWords_of_respelled (respelled : List.Forall₂ Token.Respelled words others) :
    (ofWords others).taken = (ofWords words).taken ∧
      (ofWords others).outcome =
        (ofWords words).outcome.mapError fun error => error.quoting (lastTaken others) := by
  have tokens : tokensOf others = tokensOf words := tokensOf_of_respelled respelled
  have alike : Alike words others := congrArg (List.map Token.kind) tokens
  cases outcome : (ofWords words).outcome with
  | ok formula =>
    obtain ⟨read, taken⟩ := ofWords_of_alike_of_ok alike outcome
    obtain ⟨more, names⟩ := exists_filter_isName_eq outcome
    have same : others.filter Token.isName = words.filter Token.isName := by
      rw [← filterMap_name?_tokensOf, tokens, filterMap_name?_tokensOf]
    rw [read, same, names, formula.relabel_append (Nat.le_refl _), formula.relabel_leaves]
    exact ⟨taken, rfl⟩
  | error error =>
    obtain ⟨failed, taken⟩ := ofWords_of_alike_of_error alike outcome
    exact ⟨taken, failed⟩

/-! ## Other names -/

section

variable {front rest : List String} {x y : String}

/-- A name is like any other name in its place. -/
theorem alike_rename (named : Token.isName x = true) (namedOther : Token.isName y = true)
    (front rest : List String) : Alike (front ++ x :: rest) (front ++ y :: rest) := by
  unfold Alike
  simp only [tokensOf, List.map_append, List.map_cons, Token.ofWord_of_isName named,
    Token.ofWord_of_isName namedOther, Token.kind]

/-- No name is taken for a token that is not expected. -/
theorem isName_eq_false_of_unexpectedToken {word : String}
    (failed : (ofWords words).outcome = .error (.unexpectedToken word)) :
    Token.isName word = false := by
  obtain ⟨_, _, ⟨depth, awaits⟩, _, _, _, reject⟩ := exists_leads_of_word? failed rfl
  refine Bool.eq_false_iff.2 fun named => ?_
  cases awaits with
  | operand =>
    rw [Scan.step_name (Token.ofWord_of_isName named)] at reject
    cases reject
  | operator =>
    exact absurd (Scan.reason_of_step_operator reject) SyntaxError.reason_unexpectedToken_ne

/-- Another name in the place of a name leaves the reason of a fault as it was. -/
theorem reason_quoting_rename {error : SyntaxError} (named : Token.isName x = true)
    (namedOther : Token.isName y = true)
    (failed : (ofWords (front ++ x :: rest)).outcome = .error error) :
    (error.quoting (lastTaken (front ++ y :: rest))).reason = error.reason := by
  cases error with
  | unexpectedToken word =>
    obtain ⟨before, behind, _, parts, taken, _, _⟩ := exists_leads_of_word? failed rfl
    have here : (front ++ x :: rest)[before.length]? = some word := by simp [parts]
    have apart : front.length ≠ before.length := by
      intro same
      obtain rfl : x = word := by simpa [← same] using here
      rw [isName_eq_false_of_unexpectedToken failed] at named
      cases named
    have changed : front ++ y :: rest = (front ++ x :: rest).set front.length y := by simp
    have there : (front ++ y :: rest)[before.length]? = some word := by
      rw [changed, List.getElem?_set_ne apart, here]
    have count := (ofWords_of_alike_of_error (alike_rename named namedOther front rest) failed).2
    rw [lastTaken_of_getElem? (count.trans taken) there]
    rfl
  | unexpectedEnd => rfl
  | unclosedParenthesis found => rfl

/-- Another name in the place of a name is at the leaf that the word makes. -/
theorem ofWords_rename (named : Token.isName x = true) (namedOther : Token.isName y = true) :
    (ofWords (front ++ y :: rest)).taken = (ofWords (front ++ x :: rest)).taken ∧
      (ofWords (front ++ y :: rest)).outcome.mapError SyntaxError.reason =
        ((ofWords (front ++ x :: rest)).outcome.map fun formula =>
          formula.relabel (formula.leaves.set (front.filter Token.isName).length y)).mapError
          SyntaxError.reason := by
  have alike := alike_rename named namedOther front rest
  cases outcome : (ofWords (front ++ x :: rest)).outcome with
  | ok formula =>
    obtain ⟨read, taken⟩ := ofWords_of_alike_of_ok alike outcome
    obtain ⟨more, names⟩ := exists_filter_isName_eq outcome
    have changed : (front ++ y :: rest).filter Token.isName =
        ((front ++ x :: rest).filter Token.isName).set (front.filter Token.isName).length y := by
      simp [named, namedOther]
    refine ⟨taken, ?_⟩
    rw [read, changed, names, formula.relabel_set_append]
    rfl
  | error error =>
    obtain ⟨failed, taken⟩ := ofWords_of_alike_of_error alike outcome
    refine ⟨taken, ?_⟩
    rw [failed]
    exact congrArg Except.error (reason_quoting_rename named namedOther outcome)

end

/-! ## Spellings do not matter -/

/-- Reading depends on the words only through what they stand for.  Keywords that are spelled in
another way give the same formula from as many words, or the same fault, in which the new spelling
is quoted where a word is.  Another name in the place of a name is at the one leaf that its word
makes, if it makes one, and all else is as it was.  Which is which is told by the lower case: the
words whose lower case is listed are the keywords, and none of them is a name.  Six keywords are
connectives, and each of these may also be spelled by its symbol. -/
theorem reading_by_meaning :
    (∀ words others : List String, List.Forall₂ Token.Respelled words others →
      (ofWords others).taken = (ofWords words).taken ∧
        (ofWords others).outcome =
          (ofWords words).outcome.mapError fun error => error.quoting (lastTaken others)) ∧
    (∀ (front rest : List String) (x y : String), Token.isName x = true → Token.isName y = true →
      (ofWords (front ++ y :: rest)).taken = (ofWords (front ++ x :: rest)).taken ∧
        (ofWords (front ++ y :: rest)).outcome.mapError SyntaxError.reason =
          ((ofWords (front ++ x :: rest)).outcome.map fun formula =>
            formula.relabel (formula.leaves.set (front.filter Token.isName).length y)).mapError
            SyntaxError.reason) ∧
    (∀ (word : String) (token : Token), Token.keyword? word = some token ↔
      (Token.lowercase word, token) ∈ Token.keywords) ∧
    (∀ word : String, Token.isName word = true ↔ Token.ofWord word = .name word) ∧
    (∀ (word other : String) (token : Token), Token.keyword? word = some token →
      Token.lowercase other = Token.lowercase word → Token.isName other = false) ∧
    ∀ (word symbol : String) (c : Connective), (word, symbol, c) ∈ Token.symbols →
      Token.keyword? word = some (.connective c) ∧ Token.SameKeyword word symbol := by
  refine ⟨?_, ?_, ?_, ?_, ?_, ?_⟩
  · intro words others respelled
    exact ofWords_of_respelled respelled
  · intro front rest x y named namedOther
    exact ofWords_rename named namedOther
  · intro word token
    exact Token.keyword?_eq_some_iff
  · intro word
    exact Token.isName_iff_ofWord
  · intro word other token keyword same
    exact Token.isName_eq_false_of_lowercase_eq same keyword
  · intro word symbol c listed
    exact Token.sameKeyword_of_mem_symbols listed

/-- The connective that comes too early is quoted as it is spelled, another letter case makes
another name, and a sign spells what its word does. -/
theorem reading_by_meaning_cases :
    List.Forall₂ Token.Respelled ["a", "and", "or"] ["a", "∧", "OR"] ∧
      (ofWords ["a", "∧", "OR"]).outcome = .error (.unexpectedToken "OR") ∧
      Token.isName "b" = true ∧ Token.isName "B" = true ∧
      (ofWords ["a", "and", "B"]).outcome.mapError SyntaxError.reason =
        .ok (.binary .and (.var "a") (.var "B")) ∧
      Token.keyword? "Or" = some (.connective .or) ∧ Token.isName "oR" = false ∧
      ("neq", "≠", .notEqual) ∈ Token.symbols ∧ Token.SameKeyword "neq" "≠" := by
  have respelled : List.Forall₂ Token.Respelled ["a", "and", "or"] ["a", "∧", "OR"] :=
    .cons (.inl rfl) (.cons (.inr ⟨.connective .and, by decide, by decide⟩)
      (.cons (.inr ⟨.connective .or, by decide, by decide⟩) .nil))
  have failed : (ofWords ["a", "and", "or"]).outcome = .error (.unexpectedToken "or") ∧
      (ofWords ["a", "and", "or"]).taken = 3 := ofWords_of_run (by decide)
  obtain ⟨taken, outcome⟩ := reading_by_meaning.1 _ _ respelled
  have last : lastTaken ["a", "∧", "OR"] = "OR" :=
    lastTaken_of_getElem? (k := 2) (taken.trans failed.2) rfl
  rw [failed.1, last] at outcome
  have named : Token.isName "b" = true := by decide
  have namedOther : Token.isName "B" = true := by decide
  have read : (ofWords ["a", "and", "b"]).outcome = .ok (.binary .and (.var "a") (.var "b")) := by
    have derives : Derives .expression (tokensOf ["a", "and", "b"])
        (.binary .and (.var "a") (.var "b")) :=
      Derives.join_factors .and (.name "a") (.name "b")
    exact (Begins.of_derives derives).ofWords_eq.1
  have renamed : (ofWords ["a", "and", "B"]).outcome.mapError SyntaxError.reason =
      ((ofWords ["a", "and", "b"]).outcome.map fun formula =>
        formula.relabel (formula.leaves.set (["a", "and"].filter Token.isName).length "B")).mapError
        SyntaxError.reason :=
    (reading_by_meaning.2.1 ["a", "and"] [] "b" "B" named namedOther).2
  rw [read] at renamed
  have keyword : Token.keyword? "Or" = some (.connective .or) := by decide
  have listed : ("neq", "≠", .notEqual) ∈ Token.symbols := by decide
  exact ⟨respelled, outcome, named, namedOther, renamed, keyword,
    reading_by_meaning.2.2.2.2.1 "Or" "oR" _ keyword (by decide), listed,
    (reading_by_meaning.2.2.2.2.2 "neq" "≠" _ listed).2⟩

end Parse

end Propositional
