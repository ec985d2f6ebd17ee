import Propositional.Proofs.Reading

set_option autoImplicit false

/-!
# Reading by the grammar

Reading is sound for the grammar, in that what was read derives the formula and goes on
for as long as it can, and complete, in that the words of a derivation are read whenever
nothing behind them could go on with it.  The two together make the grammar unambiguous,
which is nowhere assumed.
-/

namespace Propositional

/-! ## Soundness -/

namespace Progress

variable {bound large : Nat} {phrase : Phrase} {before : List Token} {r : Reader}

/-- Starting from `r`, behind the tokens `before`, the phrase was read as the grammar has
it, and up to where it ends; if it was not read, some words were taken all the same. -/
def Sound (phrase : Phrase) (before : List Token) (r : Reader) : Progress bound → Prop
  | .read formula after _ =>
    ∃ words, r.Passes words after ∧ Derives phrase (before ++ tokensOf words) formula ∧
      after.Ends phrase
  | .failed _ after => ∃ words, r.Passes words after

theorem Sound.weaken {p : Progress bound} (sound : p.Sound phrase before r) (h : bound ≤ large) :
    (p.weaken h).Sound phrase before r := by
  cases p with
  | read formula after shorter => exact sound
  | failed error after => exact sound

/-- Words taken beforehand count among those already behind the reader. -/
theorem Sound.of_passes {p : Progress bound} {middle : Reader} {words : List String}
    (passes : r.Passes words middle) (sound : p.Sound phrase (before ++ tokensOf words) middle) :
    p.Sound phrase before r := by
  cases p with
  | read formula after shorter =>
    obtain ⟨more, tail, derives, ends⟩ := sound
    refine ⟨words ++ more, passes.append tail, ?_, ends⟩
    simpa [List.append_assoc] using derives
  | failed error after =>
    obtain ⟨more, tail⟩ := sound
    exact ⟨words ++ more, passes.append tail⟩

end Progress

namespace Reader

/-- Closing a parenthesis completes the group, if the parenthesis is there. -/
theorem sound_close {r after : Reader} {word : String} {rest words : List String}
    {inner : Formula} (next : r.rest = word :: rest) (token : Token.ofWord word = .opening)
    (passes : (r.pass word rest).Passes words after)
    (derives : Derives .expression (tokensOf words) inner) :
    (close inner after).Sound .factor [] r := by
  have before : r.Passes (word :: words) after := .cons next passes
  cases last : after.rest with
  | nil =>
    rw [close_of_nil last]
    exact ⟨word :: words, before⟩
  | cons found tail =>
    have all : r.Passes (word :: words ++ [found]) (after.pass found tail) :=
      before.append (.single last)
    rw [close_of_cons last]
    split
    · rename_i closing
      refine ⟨word :: words ++ [found], all, ?_, ends_factor _⟩
      simpa [token, closing] using derives.group
    · exact ⟨word :: words ++ [found], all⟩

-- The induction is that of the readers themselves, on the words left and the depth below
-- them.  An extension needs to know what it extends: a chain that derives `left`, at a
-- place where the last operand ends.
mutual

theorem sound_chain (tier : Tier) (r : Reader) : (chain tier r).Sound (.chain tier) [] r := by
  have first := sound_operand tier r
  cases read : operand tier r with
  | failed error after =>
    rw [read] at first
    rw [chain_of_failed read]
    exact first
  | read left after shorter =>
    rw [read] at first
    obtain ⟨words, passes, derives, ends⟩ := first
    rw [chain_of_read read]
    have tail := sound_extend tier left (tokensOf words) after (.single derives) ends
    exact (Progress.Sound.of_passes passes tail).weaken _
termination_by (r.size, tier.depth + 1)

theorem sound_operand (tier : Tier) (r : Reader) :
    (operand tier r).Sound (.operand tier) [] r := by
  cases tier with
  | comparison =>
    rw [operand_comparison]
    exact sound_chain .logical r
  | logical =>
    rw [operand_logical]
    exact sound_factor r
termination_by (r.size, tier.depth)

theorem sound_extend (tier : Tier) (left : Formula) (before : List Token) (r : Reader)
    (derives : Derives (.chain tier) before left) (ends : r.Ends (.operand tier)) :
    (extend tier left r).Sound (.chain tier) before r := by
  cases next : r.rest with
  | nil =>
    rw [extend_of_nil next]
    exact ⟨[], .refl r, by simpa using derives, ends_of_nil next⟩
  | cons word rest =>
    rcases connective_or_other tier word with ⟨c, token, rfl⟩ | other
    · have shorter : (r.pass word rest).size < r.size := size_pass next
      have second := sound_operand c.tier (r.pass word rest)
      cases read : operand c.tier (r.pass word rest) with
      | failed error after =>
        rw [read] at second
        obtain ⟨words, passes⟩ := second
        rw [extend_of_failed next token read]
        exact ⟨word :: words, .cons next passes⟩
      | read right after less =>
        rw [read] at second
        obtain ⟨words, passes, derivesRight, endsRight⟩ := second
        rw [extend_of_read next token read]
        have joined : Derives (.chain c.tier) (before ++ tokensOf (word :: words))
            (.binary c left right) := by
          simpa [token] using derives.join_on_tier derivesRight
        have tail := sound_extend c.tier (.binary c left right) _ after joined endsRight
        exact (Progress.Sound.of_passes (.cons next passes) tail).weaken _
    · rw [extend_of_other next other]
      exact ⟨[], .refl r, by simpa using derives, ends_chain next ends other⟩
termination_by (r.size, 0)

theorem sound_factor (r : Reader) : (factor r).Sound .factor [] r := by
  cases next : r.rest with
  | nil =>
    rw [factor_of_nil next]
    exact ⟨[], .refl r⟩
  | cons word rest =>
    have shorter : (r.pass word rest).size < r.size := size_pass next
    rw [factor_of_cons next]
    cases token : Token.ofWord word with
    | literal value =>
      refine ⟨[word], .single next, ?_, ends_factor _⟩
      simpa [token] using Derives.literal value
    | name x =>
      refine ⟨[word], .single next, ?_, ends_factor _⟩
      simpa [token] using Derives.name x
    | not =>
      have inner := sound_factor (r.pass word rest)
      cases read : factor (r.pass word rest) with
      | failed error after =>
        rw [read] at inner
        obtain ⟨words, passes⟩ := inner
        exact ⟨word :: words, .cons next passes⟩
      | read operand after less =>
        rw [read] at inner
        obtain ⟨words, passes, derives, _⟩ := inner
        refine ⟨word :: words, .cons next passes, ?_, ends_factor _⟩
        simpa [token] using derives.not
    | opening =>
      have inside := sound_chain .comparison (r.pass word rest)
      cases read : chain .comparison (r.pass word rest) with
      | failed error after =>
        rw [read] at inside
        obtain ⟨words, passes⟩ := inside
        exact ⟨word :: words, .cons next passes⟩
      | read inner after less =>
        rw [read] at inside
        obtain ⟨words, passes, derives, _⟩ := inside
        refine Progress.Sound.weaken ?_ _
        exact sound_close next token passes derives
    | connective c => exact ⟨[word], .single next⟩
    | closing => exact ⟨[word], .single next⟩
    | unknown w => exact ⟨[word], .single next⟩
termination_by (r.size, 0)

end

/-! ## Completeness -/

/-- No connective of the chain's own tier follows, so it goes no further. -/
theorem extend_of_ends {tier : Tier} {left : Formula} {r : Reader} (ends : r.Ends (.chain tier)) :
    extend tier left r = .read left r (Nat.lt_succ_self _) := by
  cases next : r.rest with
  | nil => exact extend_of_nil next
  | cons word rest =>
    refine extend_of_other next ?_
    intro c token same
    exact ends word rest c next token (Phrase.joins_chain_iff.2 (.inl same))

/-- How a phrase with that meaning is read when its words lead from `r` to `after`.  A
factor is done there.  A chain may go on, and does so as an extension of what it means. -/
def ReadsAs (formula : Formula) (r after : Reader) : Phrase → Prop
  | .factor => (factor r).result = (.ok formula, after)
  | .chain tier =>
    after.Ends (.operand tier) → (chain tier r).result = (extend tier formula after).result

/-- An operand that has ended is read completely. -/
theorem result_operand {tier : Tier} {formula : Formula} {r after : Reader}
    (reads : ReadsAs formula r after (.operand tier)) (ends : after.Ends (.operand tier)) :
    (operand tier r).result = (.ok formula, after) := by
  cases tier with
  | comparison =>
    rw [operand_comparison, reads (ends_factor after), extend_of_ends ends]
    rfl
  | logical =>
    rw [operand_logical]
    exact reads

/-- Words that derive a phrase are read as that phrase. -/
theorem readsAs_of_derives {phrase : Phrase} {words : List String} {formula : Formula}
    (derives : Derives phrase (tokensOf words) formula) :
    ∀ {r after : Reader}, r.Passes words after → ReadsAs formula r after phrase := by
  induction derives using Derives.words_induction with
  | literal token =>
    intro r after passes
    obtain ⟨rest, next, tail⟩ := passes.uncons
    cases tail
    simp only [ReadsAs, factor_of_cons next, token, Progress.result]
  | name token =>
    intro r after passes
    obtain ⟨rest, next, tail⟩ := passes.uncons
    cases tail
    simp only [ReadsAs, factor_of_cons next, token, Progress.result]
  | @not word _ operand token _ ih =>
    intro r after passes
    obtain ⟨rest, next, tail⟩ := passes.uncons
    have inner : (factor (r.pass word rest)).result = (.ok operand, after) := ih tail
    obtain ⟨shorter, read⟩ := Progress.result_eq_ok_iff.1 inner
    simp only [ReadsAs, factor_of_not_read next token read, Progress.result]
  | @group _ inner _ ih =>
    intro r after passes
    obtain ⟨rest, next, tail⟩ := passes.uncons
    obtain ⟨middle, first, second⟩ := tail.split
    obtain ⟨left, here, done⟩ := second.uncons
    cases done
    have ends : ∀ phrase, middle.Ends phrase := by
      intro phrase
      refine ends_of_cons here ?_
      intro c connective
      rw [Token.ofWord_closing] at connective
      cases connective
    have inside : (chain .comparison (r.pass "(" rest)).result = (.ok inner, middle) := by
      rw [ih first (ends _), extend_of_ends (ends _)]
      rfl
    obtain ⟨shorter, read⟩ := Progress.result_eq_ok_iff.1 inside
    show (factor r).result = (.ok inner, middle.pass ")" left)
    rw [factor_of_opening_read next Token.ofWord_opening read, Progress.result_weaken,
      close_of_cons here, if_pos Token.ofWord_closing]
    rfl
  | single _ ih =>
    intro r after passes ends
    have first := result_operand (ih passes) ends
    obtain ⟨shorter, read⟩ := Progress.result_eq_ok_iff.1 first
    rw [chain_of_read read, Progress.result_weaken]
  | join token _ _ ihLeft ihRight =>
    intro r after passes ends
    obtain ⟨middle, first, second⟩ := passes.split
    obtain ⟨rest, next, tail⟩ := second.uncons
    have operandRead := result_operand (ihRight tail) ends
    obtain ⟨shorter, read⟩ := Progress.result_eq_ok_iff.1 operandRead
    rw [ihLeft first (ends_operand_of_connective next token), extend_of_read next token read,
      Progress.result_weaken]

end Reader

/-! ## Whole expressions -/

/-- An expression ends before these words, as no connective is the first of them. -/
def EndsBefore (rest : List String) : Prop :=
  ∀ (word : String) (c : Connective), rest.head? = some word → Token.ofWord word ≠ .connective c

namespace Begins

variable {words : List String} {k : Nat} {formula : Formula}

/-- Reading finds an expression that the words begin with, and takes no more of them. -/
theorem ofWords_eq (h : Begins words k formula) :
    (Parse.ofWords words).outcome = .ok formula ∧ (Parse.ofWords words).taken = k := by
  obtain ⟨within, derives, last⟩ := h
  have cut : (Reader.start words).rest = words.take k ++ words.drop k :=
    (List.take_append_drop k words).symm
  obtain ⟨after, passes, left⟩ := Reader.Passes.exists_of_rest_eq cut
  have ends : after.Ends .expression := by
    refine Reader.ends_expression_iff.2 ?_
    intro word c first
    rw [left, List.getElem?_drop, Nat.add_zero] at first
    exact last word c first
  have operandEnds : after.Ends .term := by
    intro word rest c next token _
    exact ends word rest c next token trivial
  have read : (Reader.chain .comparison (Reader.start words)).result = (.ok formula, after) := by
    rw [Reader.readsAs_of_derives derives passes operandEnds, Reader.extend_of_ends ends]
    rfl
  obtain ⟨shorter, whole⟩ := Progress.result_eq_ok_iff.1 read
  have count : after.taken = k := by
    rw [passes.taken_eq, List.length_take, Nat.min_eq_left within]
    exact Nat.zero_add k
  simp only [Parse.ofWords, whole]
  exact ⟨trivial, count⟩

/-- What is read is an expression that the words begin with. -/
theorem of_ofWords (h : (Parse.ofWords words).outcome = .ok formula) :
    Begins words (Parse.ofWords words).taken formula := by
  have sound := Reader.sound_chain .comparison (Reader.start words)
  cases read : Reader.chain .comparison (Reader.start words) with
  | failed error after =>
    simp only [Parse.ofWords, read] at h
    cases h
  | read found after shorter =>
    rw [read] at sound
    obtain ⟨front, passes, derives, ends⟩ := sound
    simp only [Parse.ofWords, read, Except.ok.injEq] at h ⊢
    subst h
    have parts : words = front ++ after.rest := passes.rest_eq
    have count : after.taken = front.length := by
      rw [passes.taken_eq]
      exact Nat.zero_add _
    rw [count]
    refine ⟨?_, ?_, ?_⟩
    · rw [parts, List.length_append]
      omega
    · have taken : words.take front.length = front := by
        rw [parts, List.take_left]
      rw [taken]
      exact derives
    · intro word c first
      refine Reader.ends_expression_iff.1 ends word c ?_
      rw [parts, List.getElem?_append_right (Nat.le_refl _), Nat.sub_self] at first
      exact first

/-- The words begin with at most one expression, and it has one meaning. -/
theorem unique {l : Nat} {other : Formula} (h : Begins words k formula)
    (h' : Begins words l other) : k = l ∧ formula = other := by
  obtain ⟨outcome, taken⟩ := h.ofWords_eq
  obtain ⟨outcome', taken'⟩ := h'.ofWords_eq
  refine ⟨taken.symm.trans taken', ?_⟩
  exact Except.ok.inj (outcome.symm.trans outcome')

/-- All the words together are an expression. -/
theorem of_derives (derives : Derives .expression (tokensOf words) formula) :
    Begins words words.length formula := by
  refine ⟨Nat.le_refl _, ?_, ?_⟩
  · rw [List.take_length]
    exact derives
  · intro word c beyond
    rw [List.getElem?_eq_none (Nat.le_refl _)] at beyond
    cases beyond

/-- Words that are an expression begin any words that do not go on with a connective. -/
theorem of_append {front rest : List String}
    (derives : Derives .expression (tokensOf front) formula)
    (last : EndsBefore rest) : Begins (front ++ rest) front.length formula := by
  refine ⟨?_, ?_, ?_⟩
  · rw [List.length_append]
    exact Nat.le_add_right _ _
  · rw [List.take_left]
    exact derives
  · intro word c here
    rw [List.getElem?_append_right (Nat.le_refl _), Nat.sub_self, ← List.head?_eq_getElem?] at here
    exact last word c here

/-- What the words begin with is cut off from the rest of them. -/
theorem exists_append (h : Begins words k formula) :
    ∃ front rest : List String, words = front ++ rest ∧ k = front.length ∧
      Derives .expression (tokensOf front) formula ∧ EndsBefore rest := by
  obtain ⟨within, derives, last⟩ := h
  refine ⟨words.take k, words.drop k, (List.take_append_drop k words).symm,
    (List.length_take_of_le within).symm, derives, ?_⟩
  intro word c first
  rw [List.head?_drop] at first
  exact last word c first

end Begins

/-- Reading the words gives the formula, and leaves none of them over. -/
def Parse.ReadsWhole (words : List String) (formula : Formula) : Prop :=
  (Parse.ofWords words).outcome = .ok formula ∧ (Parse.ofWords words).taken = words.length

/-- What is read to its last word is what derives an expression. -/
theorem Parse.readsWhole_iff_derives {words : List String} {formula : Formula} :
    ReadsWhole words formula ↔ Derives .expression (tokensOf words) formula := by
  constructor
  · rintro ⟨read, whole⟩
    obtain ⟨_, derives, _⟩ := Begins.of_ofWords read
    rw [whole, List.take_length] at derives
    exact derives
  · intro derives
    exact (Begins.of_derives derives).ofWords_eq

/-- Reading finds exactly the expressions of the grammar.  Some number of words is an
expression that no connective follows just when reading succeeds, and with the same
formula; there is at most one such number and formula, so words that derive an
expression derive no other formula. -/
theorem Parse.outcome_ok_iff_begins (words : List String) :
    (∀ formula : Formula,
      (Parse.ofWords words).outcome = .ok formula ↔ ∃ k, Begins words k formula) ∧
    (∀ (k l : Nat) (f g : Formula), Begins words k f → Begins words l g → k = l ∧ f = g) ∧
    ∀ f g : Formula, Derives .expression (tokensOf words) f →
      Derives .expression (tokensOf words) g → f = g := by
  refine ⟨?_, ?_, ?_⟩
  · intro formula
    constructor
    · intro read
      exact ⟨_, Begins.of_ofWords read⟩
    · rintro ⟨k, begins⟩
      exact begins.ofWords_eq.1
  · intro k l f g first second
    exact first.unique second
  · intro f g first second
    exact ((Begins.of_derives first).unique (.of_derives second)).2

/-- A comparison has for an operand all of the conjunction behind it, since it binds looser, and
a negation has one name only; a shorter front that a connective follows does not count, and what
goes on with nothing is left over. -/
theorem Parse.outcome_ok_iff_begins_mixed :
    Begins ["not", "a", "EQ", "b", "∧", "(", "c", ")", "d", "or"] 8
        (.binary .equal (.not (.var "a")) (.binary .and (.var "b") (.var "c"))) ∧
      (Parse.ofWords ["not", "a", "EQ", "b", "∧", "(", "c", ")", "d", "or"]).outcome =
        .ok (.binary .equal (.not (.var "a")) (.binary .and (.var "b") (.var "c"))) ∧
      ¬ Begins ["not", "a", "EQ", "b", "∧", "(", "c", ")", "d", "or"] 4
        (.binary .equal (.not (.var "a")) (.var "b")) := by
  have left : Derives .term [.not, .name "a"] (.not (.var "a")) := .single (.not (.name "a"))
  have group : Derives .factor [.opening, .name "c", .closing] (.var "c") :=
    .group (.single (.single (.name "c")))
  have right : Derives .term [.name "b", .connective .and, .opening, .name "c", .closing]
      (.binary .and (.var "b") (.var "c")) :=
    Derives.join_on_tier (c := .and) (.single (.name "b")) group
  have begins : Begins ["not", "a", "EQ", "b", "∧", "(", "c", ")", "d", "or"] 8
      (.binary .equal (.not (.var "a")) (.binary .and (.var "b") (.var "c"))) := by
    refine ⟨by decide, Derives.join_on_tier (c := .equal) (.single left) right, ?_⟩
    intro word c here token
    obtain rfl : "d" = word := Option.some.inj here
    have name : Token.ofWord "d" = .name "d" := by decide
    rw [name] at token
    cases token
  refine ⟨begins, ((Parse.outcome_ok_iff_begins _).1 _).2 ⟨8, begins⟩, ?_⟩
  intro shorter
  have same := (Parse.outcome_ok_iff_begins _).2.1 8 4 _ _ begins shorter
  exact absurd same.1 (by decide)

end Propositional
