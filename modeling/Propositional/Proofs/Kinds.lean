import Propositional.Proofs.Faults
import Propositional.Proofs.Naming

set_option autoImplicit false

/-!
# Kinds of words

Reading asks of a word what it stands for, and of a name no more than that it is one.  Lists of
words that are alike in this are taken alike, up to the same place.  How the words are spelled comes
out again only in the names at the leaves of the formula, and where a word at fault is quoted.
-/

namespace Propositional

/-! ## Names at the leaves -/

namespace Formula

/-- The formula with these names at its leaves, from left to right. -/
def relabel : Formula → List String → Formula
  | .var name, names => .var (names.headD name)
  | .const value, _ => .const value
  | .not operand, names => .not (operand.relabel names)
  | .binary c left right, names =>
    .binary c (left.relabel names) (right.relabel (names.drop left.leaves.length))

/-- Names beyond the last leaf are left over. -/
theorem relabel_append (f : Formula) {names : List String} (enough : f.leaves.length ≤ names.length)
    (more : List String) : f.relabel (names ++ more) = f.relabel names := by
  induction f generalizing names with
  | var name =>
    obtain ⟨first, rest, rfl⟩ := List.exists_cons_of_length_pos enough
    rfl
  | const value => rfl
  | not operand ih => rw [relabel, ih enough, relabel]
  | binary c left right ihLeft ihRight =>
    rw [leaves, List.length_append] at enough
    have first : left.leaves.length ≤ names.length := Nat.le_of_add_right_le enough
    have second : right.leaves.length ≤ (names.drop left.leaves.length).length := by
      rw [List.length_drop]
      exact Nat.le_sub_of_add_le' enough
    rw [relabel, List.drop_append_of_le_length first, ihLeft first, ihRight second, relabel]

/-- With its own names, a formula is what it was. -/
theorem relabel_leaves (f : Formula) : f.relabel f.leaves = f := by
  induction f with
  | var name => rfl
  | const value => rfl
  | not operand ih => rw [relabel, leaves, ih]
  | binary c left right ihLeft ihRight =>
    rw [relabel, leaves, relabel_append left (Nat.le_refl _), List.drop_left, ihLeft, ihRight]

/-- Another name in the place of one beyond the last leaf makes no difference. -/
theorem relabel_set_append (f : Formula) (more : List String) (i : Nat) (name : String) :
    f.relabel ((f.leaves ++ more).set i name) = f.relabel (f.leaves.set i name) := by
  rw [List.set_append]
  split
  · exact f.relabel_append (Nat.le_of_eq (List.length_set).symm) more
  · rename_i beyond
    rw [f.relabel_append (Nat.le_refl _), List.set_eq_of_length_le (Nat.le_of_not_lt beyond)]

end Formula

/-! ## Words that are alike -/

/-- The token, without the spelling of a name. -/
def Token.kind : Token → Token
  | .name _ => .name ""
  | token => token

/-- The words stand for the same, but for the spelling of names. -/
def Alike (words others : List String) : Prop :=
  (tokensOf others).map Token.kind = (tokensOf words).map Token.kind

namespace Token

variable {token other : Token} {tokens others : List Token}

/-- A token that is no name is all there is to know. -/
theorem eq_of_kind_eq (same : other.kind = token.kind) (plain : ∀ x, token ≠ .name x) :
    other = token := by
  cases token with
  | name x => exact absurd rfl (plain x)
  | _ => cases other <;> simp_all [kind]

/-- Where the one is a name, so is the other. -/
theorem exists_name_of_kind_eq {x : String} (same : other.kind = (name x).kind) :
    ∃ y, other = .name y := by
  cases other with
  | name y => exact ⟨y, rfl⟩
  | _ => cases same

/-- Tokens of one kind are the same, or two names. -/
theorem eq_or_names_of_kind_eq (same : other.kind = token.kind) :
    other = token ∨ ∃ x y, token = .name x ∧ other = .name y := by
  cases token with
  | name x =>
    obtain ⟨y, rfl⟩ := exists_name_of_kind_eq same
    exact .inr ⟨x, y, rfl, rfl⟩
  | _ => exact .inl (eq_of_kind_eq same fun _ => Token.noConfusion)

theorem filterMap_name?_map_kind (tokens : List Token) :
    (tokens.map kind).filterMap name? = (tokens.filterMap name?).map fun _ => "" := by
  rw [List.filterMap_map, List.map_filterMap]
  congr 1
  funext token
  cases token <;> rfl

/-- Tokens that are alike have the same number of names among them. -/
theorem length_names_eq (same : others.map kind = tokens.map kind) :
    (others.filterMap name?).length = (tokens.filterMap name?).length := by
  have names := congrArg (List.length ∘ List.filterMap name?) same
  simp only [Function.comp_apply, filterMap_name?_map_kind, List.length_map] at names
  exact names

end Token

/-- Tokens that are alike derive the same formula, with their own names at its leaves. -/
theorem Derives.relabel {phrase : Phrase} {tokens : List Token} {formula : Formula}
    (derives : Derives phrase tokens formula) : ∀ others : List Token,
    others.map Token.kind = tokens.map Token.kind →
      Derives phrase others (formula.relabel (others.filterMap Token.name?)) := by
  induction derives with
  | literal value =>
    intro others same
    obtain ⟨token, _, rfl, kind, none⟩ := List.map_eq_cons_iff.1 same
    obtain rfl := List.map_eq_nil_iff.1 none
    obtain rfl := Token.eq_of_kind_eq kind (fun _ => Token.noConfusion)
    exact .literal value
  | name x =>
    intro others same
    obtain ⟨token, _, rfl, kind, none⟩ := List.map_eq_cons_iff.1 same
    obtain rfl := List.map_eq_nil_iff.1 none
    obtain ⟨y, rfl⟩ := Token.exists_name_of_kind_eq kind
    exact .name y
  | not _ ih =>
    intro others same
    obtain ⟨token, rest, rfl, kind, tail⟩ := List.map_eq_cons_iff.1 same
    obtain rfl := Token.eq_of_kind_eq kind (fun _ => Token.noConfusion)
    exact .not (ih rest tail)
  | group _ ih =>
    intro others same
    obtain ⟨first, _, rfl, kind, tail⟩ := List.map_eq_cons_iff.1 same
    rw [List.map_append] at tail
    obtain ⟨inner, _, rfl, inside, tailLast⟩ := List.map_eq_append_iff.1 tail
    obtain ⟨last, _, rfl, kindLast, none⟩ := List.map_eq_cons_iff.1 tailLast
    obtain rfl := List.map_eq_nil_iff.1 none
    obtain rfl := Token.eq_of_kind_eq kind (fun _ => Token.noConfusion)
    obtain rfl := Token.eq_of_kind_eq kindLast (fun _ => Token.noConfusion)
    have names : (Token.opening :: (inner ++ [Token.closing])).filterMap Token.name? =
        inner.filterMap Token.name? := by
      rw [List.filterMap_cons_none rfl, List.filterMap_append]
      exact List.append_nil _
    rw [names]
    exact .group (ih inner inside)
  | single _ ih =>
    intro others same
    exact .single (ih others same)
  | @join _ _ _ _ left _ among first _ ihLeft ihRight =>
    intro others same
    rw [List.map_append] at same
    obtain ⟨front, _, rfl, frontSame, tail⟩ := List.map_eq_append_iff.1 same
    obtain ⟨token, back, rfl, kind, backSame⟩ := List.map_eq_cons_iff.1 tail
    obtain rfl := Token.eq_of_kind_eq kind (fun _ => Token.noConfusion)
    -- The names in front of the connective are as many as the left operand has leaves, so that
    -- each operand gets those among its own tokens.
    have length : left.leaves.length = (front.filterMap Token.name?).length := by
      rw [first.leaves_eq, Token.length_names_eq frontSame]
    rw [List.filterMap_append, List.filterMap_cons_none rfl, Formula.relabel,
      Formula.relabel_append left (Nat.le_of_eq length), length, List.drop_left]
    exact .join among (ihLeft front frontSame) (ihRight back backSame)

/-! ## Faults and the words they quote -/

/-- The fault with another word quoted, if it was found at a word. -/
def SyntaxError.quoting (word : String) : SyntaxError → SyntaxError
  | .unexpectedToken _ => .unexpectedToken word
  | .unexpectedEnd => .unexpectedEnd
  | .unclosedParenthesis found => .unclosedParenthesis (found.map fun _ => word)

namespace SyntaxError

variable {error : SyntaxError}

theorem word?_quoting (error : SyntaxError) (word : String) :
    (error.quoting word).word? = error.word?.map fun _ => word := by
  cases error <;> rfl

/-- A fault that was found at the end quotes nothing. -/
theorem quoting_of_word?_eq_none (atEnd : error.word? = none) (word : String) :
    error.quoting word = error := by
  cases error with
  | unexpectedToken found => cases atEnd
  | unexpectedEnd => rfl
  | unclosedParenthesis found =>
    obtain rfl : found = none := atEnd
    rfl

end SyntaxError

/-! ## Reading words that are alike -/

namespace Alike

variable {words others : List String}

theorem length_eq (alike : Alike words others) : others.length = words.length := by
  have lengths := congrArg List.length alike
  simpa only [List.length_map] using lengths

theorem take (alike : Alike words others) (k : Nat) : Alike (words.take k) (others.take k) := by
  unfold Alike tokensOf at alike ⊢
  rw [List.map_take, List.map_take, alike, ← List.map_take, ← List.map_take]

/-- At each place the words are of one kind. -/
theorem kind_getElem? (alike : Alike words others) (k : Nat) :
    others[k]?.map (Token.kind ∘ Token.ofWord) = words[k]?.map (Token.kind ∘ Token.ofWord) := by
  have here := congrArg (fun kinds : List Token => kinds[k]?) alike
  simpa only [tokensOf, List.map_map, List.getElem?_map] using here

/-- Words that are alike can be cut at the same word. -/
theorem exists_append {front rest : List String} {word : String}
    (alike : Alike (front ++ word :: rest) others) :
    ∃ (front' rest' : List String) (other : String), others = front' ++ other :: rest' ∧
      Alike front front' ∧ (Token.ofWord other).kind = (Token.ofWord word).kind := by
  unfold Alike at alike
  rw [tokensOf, tokensOf, List.map_append, List.map_append, List.map_map] at alike
  obtain ⟨front', more, rfl, frontSame, tail⟩ := List.map_eq_append_iff.1 alike
  obtain ⟨other, rest', rfl, kind, _⟩ := List.map_eq_cons_iff.1 tail
  refine ⟨front', rest', other, rfl, ?_, kind⟩
  rw [← List.map_map] at frontSame
  exact frontSame

/-- Words that are alike begin with an expression of the same length, and it is the same but for
the names. -/
theorem begins (alike : Alike words others) {k : Nat} {formula : Formula}
    (h : Begins words k formula) :
    Begins others k (formula.relabel (others.filter Token.isName)) := by
  obtain ⟨within, derives, last⟩ := h
  refine ⟨by rwa [alike.length_eq], ?_, ?_⟩
  · have front := derives.relabel _ (alike.take k)
    rw [filterMap_name?_tokensOf] at front
    have parts : others.filter Token.isName =
        (others.take k).filter Token.isName ++ (others.drop k).filter Token.isName := by
      rw [← List.filter_append, List.take_append_drop]
    have enough : formula.leaves.length ≤ ((others.take k).filter Token.isName).length := by
      rw [derives.leaves_eq, ← Token.length_names_eq (alike.take k), filterMap_name?_tokensOf]
    rwa [parts, formula.relabel_append enough]
  · intro word c here token
    have kinds := alike.kind_getElem? k
    rw [here, Option.map_some, Function.comp_apply, token] at kinds
    obtain ⟨found, there, kind⟩ := Option.map_eq_some_iff.1 kinds.symm
    exact last found c there (Token.eq_of_kind_eq kind fun _ => Token.noConfusion)

end Alike

namespace Scan

variable {s t : State} {word other : String} {words others : List String}

/-- Behind an operand, the only fault is a parenthesis that is not closed. -/
theorem reason_of_step_operator {depth : Nat} {reason : String}
    (reject : step ⟨depth, .operator⟩ word = .reject reason) :
    reason = (SyntaxError.unclosedParenthesis none).reason := by
  cases depth with
  | zero =>
    simp only [step] at reject
    split at reject
    · cases reject
    · cases reject
  | succ depth =>
    simp only [step] at reject
    split at reject
    · cases reject
    · cases reject
    · exact (Action.reject.inj reject).symm

/-- Behind an operand, nothing is seen of a word but its kind. -/
theorem step_operator_of_kind_eq (kind : (Token.ofWord other).kind = (Token.ofWord word).kind)
    (depth : Nat) : step ⟨depth, .operator⟩ other = step ⟨depth, .operator⟩ word := by
  rcases Token.eq_or_names_of_kind_eq kind with same | ⟨x, y, token, tokenOther⟩
  · cases depth <;> simp only [step, same]
  · cases depth <;> simp only [step, token, tokenOther]

/-- Where an operand is awaited, words of one kind lead to the same state, or each is at fault. -/
theorem step_operand_of_kind_eq (kind : (Token.ofWord other).kind = (Token.ofWord word).kind)
    (depth : Nat) :
    (∃ t, step ⟨depth, .operand⟩ word = .take t ∧ step ⟨depth, .operand⟩ other = .take t) ∨
      step ⟨depth, .operand⟩ word = .reject ("unexpected token: " ++ word) ∧
        step ⟨depth, .operand⟩ other = .reject ("unexpected token: " ++ other) := by
  rcases Token.eq_or_names_of_kind_eq kind with same | ⟨x, y, token, tokenOther⟩
  · cases token : Token.ofWord word with
    | not => exact .inl ⟨_, step_not token, step_not (same.trans token)⟩
    | literal value => exact .inl ⟨_, step_literal token, step_literal (same.trans token)⟩
    | name x => exact .inl ⟨_, step_name token, step_name (same.trans token)⟩
    | opening => exact .inl ⟨_, step_opening token, step_opening (same.trans token)⟩
    | connective c =>
      exact .inr ⟨step_misplaced (.inl ⟨c, token⟩), step_misplaced (.inl ⟨c, same.trans token⟩)⟩
    | closing =>
      exact .inr ⟨step_misplaced (.inr (.inl token)),
        step_misplaced (.inr (.inl (same.trans token)))⟩
    | unknown w =>
      exact .inr ⟨step_misplaced (.inr (.inr ⟨w, token⟩)),
        step_misplaced (.inr (.inr ⟨w, same.trans token⟩))⟩
  · exact .inl ⟨_, step_name token, step_name tokenOther⟩

/-- Whether a word is taken depends on its kind. -/
theorem step_take_of_kind_eq (kind : (Token.ofWord other).kind = (Token.ofWord word).kind)
    (take : step s word = .take t) : step s other = .take t := by
  obtain ⟨depth, awaits⟩ := s
  cases awaits with
  | operand =>
    rcases step_operand_of_kind_eq kind depth with ⟨next, found, same⟩ | ⟨reject, _⟩
    · rw [same, ← found, take]
    · rw [take] at reject
      cases reject
  | operator => rw [step_operator_of_kind_eq kind, take]

/-- A word at fault is one for its kind, and so is another word of the kind. -/
theorem step_reject_of_kind_eq (kind : (Token.ofWord other).kind = (Token.ofWord word).kind)
    {error : SyntaxError} (found : error.word? = some word)
    (reject : step s word = .reject error.reason) :
    step s other = .reject (error.quoting other).reason := by
  obtain ⟨depth, awaits⟩ := s
  cases awaits with
  | operand =>
    rcases step_operand_of_kind_eq kind depth with ⟨next, take, _⟩ | ⟨rejectWord, rejectOther⟩
    · rw [take] at reject
      cases reject
    · rw [rejectWord] at reject
      cases error with
      | unexpectedToken w => exact rejectOther
      | unexpectedEnd => cases found
      | unclosedParenthesis w =>
        exact absurd (Action.reject.inj reject) SyntaxError.reason_unexpectedToken_ne
  | operator =>
    rw [step_operator_of_kind_eq kind, reject]
    cases error with
    | unexpectedToken w =>
      exact absurd (reason_of_step_operator reject) SyntaxError.reason_unexpectedToken_ne
    | unexpectedEnd => rfl
    | unclosedParenthesis w => rfl

/-- A stretch is one for all words that are alike. -/
theorem Leads.of_alike (leads : Leads s words t) :
    ∀ others : List String, Alike words others → Leads s others t := by
  induction leads with
  | refl s =>
    intro others alike
    obtain rfl := List.eq_nil_of_length_eq_zero alike.length_eq
    exact .refl s
  | cons take _ ih =>
    intro others alike
    obtain ⟨other, rest, rfl⟩ := List.exists_cons_of_length_eq_add_one alike.length_eq
    obtain ⟨kind, tail⟩ := List.cons.inj alike
    exact .cons (step_take_of_kind_eq kind take) (ih rest tail)

end Scan

namespace Parse

variable {words others : List String} {formula : Formula} {error : SyntaxError}

/-- The last word that is taken of a list in reading it. -/
def lastTaken (words : List String) : String := words.getD ((ofWords words).taken - 1) ""

theorem lastTaken_of_getElem? {k : Nat} {word : String} (taken : (ofWords words).taken = k + 1)
    (here : words[k]? = some word) : lastTaken words = word := by
  rw [lastTaken, taken, Nat.add_sub_cancel, List.getD_eq_getElem?_getD, here, Option.getD_some]

/-- A word at fault is the last one that is taken, and stands behind a stretch. -/
theorem exists_leads_of_word? (failed : (ofWords words).outcome = .error error) {word : String}
    (found : error.word? = some word) :
    ∃ (front rest : List String) (t : Scan.State), words = front ++ word :: rest ∧
      (ofWords words).taken = front.length + 1 ∧ Scan.Leads .start front t ∧
      Scan.step t word = .reject error.reason := by
  have rejected := Scan.run_of_error failed
  rw [found] at rejected
  exact Scan.exists_leads_of_rejected rejected

/-- Words that are alike have the same fault at the same place, where each quotes its own word. -/
theorem ofWords_of_alike_of_error (alike : Alike words others)
    (failed : (ofWords words).outcome = .error error) :
    (ofWords others).outcome = .error (error.quoting (lastTaken others)) ∧
      (ofWords others).taken = (ofWords words).taken := by
  cases found : error.word? with
  | none =>
    have rejected := Scan.run_of_error failed
    rw [found] at rejected
    obtain ⟨taken, t, leads, stop⟩ := Scan.leads_of_rejected_end rejected
    rw [SyntaxError.quoting_of_word?_eq_none found, taken, ← alike.length_eq]
    refine ofWords_of_run ?_
    rw [(leads.of_alike others alike).run_eq, stop, found]
  | some word =>
    obtain ⟨front, rest, t, rfl, taken, leads, reject⟩ := exists_leads_of_word? failed found
    obtain ⟨front', rest', other, rfl, frontAlike, kind⟩ := alike.exists_append
    have quoted : (error.quoting other).word? = some other := by
      rw [SyntaxError.word?_quoting, found, Option.map_some]
    have rejected := (leads.of_alike front' frontAlike).run_of_reject
      (Scan.step_reject_of_kind_eq kind found reject) rest'
    rw [← quoted] at rejected
    obtain ⟨outcome, count⟩ := ofWords_of_run rejected
    have last : lastTaken (front' ++ other :: rest') = other :=
      lastTaken_of_getElem? count (by simp)
    rw [last, outcome, count, taken, frontAlike.length_eq]
    exact ⟨rfl, rfl⟩

/-- Words that are alike are read alike, each with its own names. -/
theorem ofWords_of_alike_of_ok (alike : Alike words others)
    (read : (ofWords words).outcome = .ok formula) :
    (ofWords others).outcome = .ok (formula.relabel (others.filter Token.isName)) ∧
      (ofWords others).taken = (ofWords words).taken :=
  (alike.begins (Begins.of_ofWords read)).ofWords_eq

/-- The names among all the words begin with the leaves of what was read. -/
theorem exists_filter_isName_eq (read : (ofWords words).outcome = .ok formula) :
    ∃ more : List String, words.filter Token.isName = formula.leaves ++ more := by
  refine ⟨(words.drop (ofWords words).taken).filter Token.isName, ?_⟩
  rw [leaves_of_ok read, ← List.filter_append, List.take_append_drop]

end Parse

end Propositional
