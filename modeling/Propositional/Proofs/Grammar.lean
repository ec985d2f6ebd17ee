import Propositional.Formula.Basic
import Propositional.Token

set_option autoImplicit false

/-!
# The grammar of expressions

The grammar says which tokens make up which formula, and mentions no reader:

    expression := term ( comparison term )*
    term       := factor ( logical factor )*
    factor     := not factor | literal | name | opening expression closing
    comparison := equal | notEqual
    logical    := and | or | xor | imply

Both chains group to the left.  `Begins` is what reading has to find: an expression at the
front of a list of words, as long as can be.
-/

namespace Propositional

namespace Tier

/-- The connectives that the grammar has on a tier, one by one. -/
def connectives : Tier → List Connective
  | .comparison => [.equal, .notEqual]
  | .logical => [.and, .or, .xor, .imply]

/-- Each connective binds on the tier that the grammar has it on. -/
theorem mem_connectives_iff {tier : Tier} {c : Connective} :
    c ∈ tier.connectives ↔ c.tier = tier := by
  cases tier <;> cases c <;> decide

theorem mem_connectives (c : Connective) : c ∈ c.tier.connectives := mem_connectives_iff.2 rfl

end Tier

/-- The phrases that the tokens of an expression group into. -/
inductive Phrase where
  /-- An operand of a logical connective. -/
  | factor
  /-- Operands joined by connectives of one tier. -/
  | chain (tier : Tier)
  deriving DecidableEq, Repr

namespace Phrase

/-- Terms joined by comparisons. -/
abbrev expression : Phrase := .chain .comparison

/-- Factors joined by logical connectives. -/
abbrev term : Phrase := .chain .logical

/-- What the connectives of a tier join. -/
def operand : Tier → Phrase
  | .comparison => .term
  | .logical => .factor

/-- Behind such a phrase the connective goes on with it. -/
def Joins : Phrase → Connective → Prop
  | .factor, _ => False
  | .chain .logical, c => c ∈ Tier.logical.connectives
  | .chain .comparison, _ => True

/-- Behind a chain, a connective goes on with the chain or with its last operand. -/
theorem joins_chain_iff {tier : Tier} {c : Connective} :
    (chain tier).Joins c ↔ c.tier = tier ∨ (operand tier).Joins c := by
  cases tier with
  | logical => simp only [Joins, operand, or_false, Tier.mem_connectives_iff]
  | comparison => cases h : c.tier <;> simp [Joins, operand, Tier.mem_connectives_iff, h]

/-- No connective goes on with an operand of its own. -/
theorem not_joins_operand (c : Connective) : ¬ (operand c.tier).Joins c := by
  cases h : c.tier with
  | logical => exact not_false
  | comparison => simp [Joins, operand, Tier.mem_connectives_iff, h]

end Phrase

/-- The tokens make up a phrase of that kind, and the formula is what it means. -/
inductive Derives : Phrase → List Token → Formula → Prop where
  | literal (value : Bool) : Derives .factor [.literal value] (.const value)
  | name (x : String) : Derives .factor [.name x] (.var x)
  | not {tokens : List Token} {operand : Formula} :
      Derives .factor tokens operand → Derives .factor (.not :: tokens) (.not operand)
  | group {tokens : List Token} {inner : Formula} :
      Derives .expression tokens inner →
      Derives .factor (.opening :: (tokens ++ [.closing])) inner
  | single {tier : Tier} {tokens : List Token} {operand : Formula} :
      Derives (.operand tier) tokens operand → Derives (.chain tier) tokens operand
  | join {tier : Tier} {c : Connective} {before behind : List Token} {left right : Formula}
      (among : c ∈ tier.connectives) :
      Derives (.chain tier) before left → Derives (.operand tier) behind right →
      Derives (.chain tier) (before ++ .connective c :: behind) (.binary c left right)

namespace Derives

variable {tokens before behind : List Token} {formula left right : Formula}

/-- A factor is an operand on either tier. -/
theorem operand_of_factor (derives : Derives .factor tokens formula) (tier : Tier) :
    Derives (.operand tier) tokens formula := by
  cases tier with
  | comparison => exact .single derives
  | logical => exact derives

/-- A chain on either tier is an expression. -/
theorem expression_of_chain {tier : Tier} (derives : Derives (.chain tier) tokens formula) :
    Derives .expression tokens formula := by
  cases tier with
  | comparison => exact derives
  | logical => exact .single derives

/-- A connective joins the chain before it and the operand behind it, on the tier it binds on. -/
theorem join_on_tier {c : Connective} (first : Derives (.chain c.tier) before left)
    (second : Derives (.operand c.tier) behind right) :
    Derives (.chain c.tier) (before ++ .connective c :: behind) (.binary c left right) :=
  join (Tier.mem_connectives c) first second

/-- Two factors joined by any connective are an expression. -/
theorem join_factors (c : Connective) (first : Derives .factor before left)
    (second : Derives .factor behind right) :
    Derives .expression (before ++ .connective c :: behind) (.binary c left right) :=
  expression_of_chain (join_on_tier (single (first.operand_of_factor c.tier))
    (second.operand_of_factor c.tier))

end Derives

/-- What each of the words stands for. -/
abbrev tokensOf (words : List String) : List Token := words.map Token.ofWord

/-- The words of an expression, in parentheses, are a factor with the same meaning. -/
theorem Derives.group_words {words : List String} {formula : Formula}
    (inside : Derives .expression (tokensOf words) formula) :
    Derives .factor (tokensOf ("(" :: (words ++ [")"]))) formula := by
  simpa using inside.group

/-- Induction on what words derive, by the words that the tokens of each rule stand for.  The
motive is asked of `whole`, any proof of what the rule derives, since all of them are equal. -/
@[elab_as_elim]
theorem Derives.words_induction
    {motive : ∀ {phrase : Phrase} {words : List String} {formula : Formula},
      Derives phrase (tokensOf words) formula → Prop}
    (literal : ∀ {word : String} {value : Bool}, Token.ofWord word = .literal value →
      ∀ whole : Derives .factor (tokensOf [word]) (.const value), motive whole)
    (name : ∀ {word x : String}, Token.ofWord word = .name x →
      ∀ whole : Derives .factor (tokensOf [word]) (.var x), motive whole)
    (not : ∀ {word : String} {rest : List String} {operand : Formula},
      Token.ofWord word = .not → ∀ inner : Derives .factor (tokensOf rest) operand, motive inner →
      ∀ whole : Derives .factor (tokensOf (word :: rest)) (.not operand), motive whole)
    (group : ∀ {inner : List String} {formula : Formula},
      ∀ inside : Derives .expression (tokensOf inner) formula, motive inside →
      ∀ whole : Derives .factor (tokensOf ("(" :: (inner ++ [")"]))) formula, motive whole)
    (single : ∀ {tier : Tier} {words : List String} {formula : Formula},
      ∀ operand : Derives (.operand tier) (tokensOf words) formula, motive operand →
      ∀ whole : Derives (.chain tier) (tokensOf words) formula, motive whole)
    (join : ∀ {word : String} {c : Connective} {before behind : List String}
      {left right : Formula}, Token.ofWord word = .connective c →
      ∀ first : Derives (.chain c.tier) (tokensOf before) left,
      ∀ second : Derives (.operand c.tier) (tokensOf behind) right, motive first → motive second →
      ∀ whole : Derives (.chain c.tier) (tokensOf (before ++ word :: behind))
        (.binary c left right), motive whole)
    {phrase : Phrase} {words : List String} {formula : Formula}
    (derives : Derives phrase (tokensOf words) formula) : motive derives := by
  suffices general : ∀ (tokens : List Token), Derives phrase tokens formula →
      ∀ words : List String, tokensOf words = tokens →
      ∀ whole : Derives phrase (tokensOf words) formula, motive whole from
    general _ derives words rfl derives
  clear derives
  intro tokens spells
  induction spells with
  | literal value =>
    intro words spelled
    obtain ⟨word, _, rfl, token, none⟩ := List.map_eq_cons_iff.1 spelled
    obtain rfl := List.map_eq_nil_iff.1 none
    exact literal token
  | name x =>
    intro words spelled
    obtain ⟨word, _, rfl, token, none⟩ := List.map_eq_cons_iff.1 spelled
    obtain rfl := List.map_eq_nil_iff.1 none
    exact name token
  | not inner ih =>
    intro words spelled
    obtain ⟨word, rest, rfl, token, rfl⟩ := List.map_eq_cons_iff.1 spelled
    exact not token inner (ih rest rfl inner)
  | group inside ih =>
    intro words spelled
    obtain ⟨word, _, rfl, opening, spelledMore⟩ := List.map_eq_cons_iff.1 spelled
    obtain ⟨inner, last, rfl, rfl, spelledLast⟩ := List.map_eq_append_iff.1 spelledMore
    obtain ⟨found, _, rfl, closing, none⟩ := List.map_eq_cons_iff.1 spelledLast
    obtain rfl := List.map_eq_nil_iff.1 none
    obtain rfl := Token.ofWord_eq_opening_iff.1 opening
    obtain rfl := Token.ofWord_eq_closing_iff.1 closing
    exact group inside (ih inner rfl inside)
  | single operand ih =>
    intro words spelled
    subst spelled
    exact single operand (ih words rfl operand)
  | join among first second ihFirst ihSecond =>
    intro words spelled
    obtain rfl := Tier.mem_connectives_iff.1 among
    obtain ⟨before, _, rfl, rfl, spelledMore⟩ := List.map_eq_append_iff.1 spelled
    obtain ⟨word, behind, rfl, token, rfl⟩ := List.map_eq_cons_iff.1 spelledMore
    exact join token first second (ihFirst before rfl first) (ihSecond behind rfl second)

/-- The first `k` words are an expression with that meaning, and no connective follows
them. -/
def Begins (words : List String) (k : Nat) (formula : Formula) : Prop :=
  k ≤ words.length ∧ Derives .expression (tokensOf (words.take k)) formula ∧
    ∀ (word : String) (c : Connective),
      words[k]? = some word → Token.ofWord word ≠ .connective c

end Propositional
