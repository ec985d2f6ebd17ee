import Propositional.Proofs.Stretches

set_option autoImplicit false

/-!
# The root of an expression

Reading goes from the first word to the last and builds a formula from its leaves.  The root of
the formula can be told from the words all the same, and before anything is read: it is the last
of the loosest connectives outside of all parentheses, and what stands before and behind it are
the words of its operands.  Where no connective is outside of the parentheses, the first word
tells the rest.
-/

namespace Propositional

/-! ## Depth -/

/-- How many more parentheses the words open than they close. -/
def depthBehind (words : List String) : Int := words.count "(" - words.count ")"

@[simp] theorem depthBehind_nil : depthBehind [] = 0 := rfl

@[simp] theorem depthBehind_append (front back : List String) :
    depthBehind (front ++ back) = depthBehind front + depthBehind back := by
  unfold depthBehind
  rw [List.count_append, List.count_append]
  omega

theorem depthBehind_cons (word : String) (rest : List String) :
    depthBehind (word :: rest) = depthBehind [word] + depthBehind rest :=
  depthBehind_append [word] rest

/-- Only the parentheses count, and it is their tokens that tell them. -/
theorem depthBehind_singleton (word : String) : depthBehind [word] =
    match Token.ofWord word with
    | .opening => 1
    | .closing => -1
    | _ => 0 := by
  by_cases opening : word = "("
  · subst opening
    rw [Token.ofWord_opening]
    decide
  · by_cases closing : word = ")"
    · subst closing
      rw [Token.ofWord_closing]
      decide
    · obtain ⟨notOpening, notClosing⟩ := Token.ofWord_ne_parenthesis opening closing
      have none : depthBehind [word] = 0 := by
        simp [depthBehind, opening, closing]
      rw [none]
      split
      · contradiction
      · contradiction
      · rfl

namespace Scan

variable {s t : State} {word : String} {words behind : List String}

/-- The depth of a scan changes by what the word counts. -/
theorem depth_of_step (take : step s word = .take t) :
    (t.depth : Int) = s.depth + depthBehind [word] := by
  rw [depthBehind_singleton]
  revert take
  -- one case for each kind of word in each state; where it is not taken, nothing is to be shown
  fun_cases step s word <;> rintro ⟨⟩ <;> simp only [*] <;> omega

namespace Leads

/-- The depth behind a stretch is the one before it and what its words open. -/
theorem depth_eq (leads : Leads s words t) : (t.depth : Int) = s.depth + depthBehind words := by
  induction leads with
  | refl s => rw [depthBehind_nil, Int.add_zero]
  | @cons s middle t word rest take _ ih =>
    rw [ih, depth_of_step take, depthBehind_cons word rest, Int.add_assoc]

/-- The front of a stretch is a stretch. -/
theorem exists_of_append (leads : Leads s (words ++ behind) t) :
    ∃ middle, Leads s words middle := by
  induction words generalizing s with
  | nil => exact ⟨s, .refl s⟩
  | cons word words ih =>
    rw [List.cons_append] at leads
    cases leads with
    | cons take tail =>
      obtain ⟨middle, front⟩ := ih tail
      exact ⟨middle, .cons take front⟩

end Leads

end Scan

section

variable {phrase : Phrase} {words front behind : List String} {formula : Formula}

/-- A phrase closes what it opens. -/
theorem depthBehind_of_derives (derives : Derives phrase (tokensOf words) formula) :
    depthBehind words = 0 := by
  have depth := (Scan.leads_of_derives derives 0).depth_eq
  simpa using depth.symm

/-- It closes nothing that it has not opened. -/
theorem depthBehind_nonneg (derives : Derives phrase (tokensOf words) formula)
    (parts : words = front ++ behind) : 0 ≤ depthBehind front := by
  subst parts
  obtain ⟨middle, leads⟩ := (Scan.leads_of_derives derives 0).exists_of_append
  have depth := leads.depth_eq
  have bound : (0 : Int) ≤ middle.depth := Int.natCast_nonneg _
  simpa [depth] using bound

end

/-! ## Connectives outside of all parentheses -/

/-- The connective stands between `left` and `right`, outside of all parentheses. -/
structure Outside (words left : List String) (c : Connective) (right : List String) : Prop where
  parts : ∃ word, words = left ++ word :: right ∧ Token.ofWord word = .connective c
  closed : depthBehind left = 0

/-- No connective of the tier stands outside of all parentheses. -/
def Free (tier : Tier) (words : List String) : Prop :=
  ∀ (left : List String) (c : Connective) (right : List String),
    Outside words left c right → c ∉ tier.connectives

/-- The connective is the last one of the tier outside of all parentheses. -/
structure Last (tier : Tier) (words left : List String) (c : Connective)
    (right : List String) : Prop extends Outside words left c right where
  among : c ∈ tier.connectives
  last : ∀ (front : List String) (d : Connective) (behind : List String),
    Outside words front d behind → d ∈ tier.connectives → front.length ≤ left.length

section

variable {words left right front behind : List String} {word : String} {c d : Connective}
  {tier : Tier}

/-- A connective leaves the depth as it is. -/
theorem depthBehind_connective (token : Token.ofWord word = .connective c) :
    depthBehind [word] = 0 := by
  rw [depthBehind_singleton, token]

theorem Outside.append_right (h : Outside front left c right) (behind : List String) :
    Outside (front ++ behind) left c (right ++ behind) := by
  obtain ⟨⟨word, rfl, token⟩, closed⟩ := h
  exact ⟨⟨word, List.append_assoc _ _ _, token⟩, closed⟩

theorem Outside.append_left (closed : depthBehind front = 0) (h : Outside behind left c right) :
    Outside (front ++ behind) (front ++ left) c right := by
  obtain ⟨⟨word, rfl, token⟩, closedLeft⟩ := h
  refine ⟨⟨word, (List.append_assoc _ _ _).symm, token⟩, ?_⟩
  rw [depthBehind_append, closed, closedLeft, Int.add_zero]

/-- Where the front closes what it opens, a connective outside of all parentheses is so in the
front or in what is behind it. -/
theorem Outside.of_append (closed : depthBehind front = 0)
    (h : Outside (front ++ behind) left c right) :
    (∃ more, right = more ++ behind ∧ Outside front left c more) ∨
      ∃ more, left = front ++ more ∧ Outside behind more c right := by
  obtain ⟨⟨word, parts, token⟩, closedLeft⟩ := h
  rcases List.append_eq_append_iff.1 parts with ⟨more, rfl, later⟩ | ⟨more, rfl, earlier⟩
  · rw [depthBehind_append, closed, Int.zero_add] at closedLeft
    exact .inr ⟨more, rfl, ⟨word, later, token⟩, closedLeft⟩
  · rcases List.cons_eq_append_iff.1 earlier with ⟨rfl, rfl⟩ | ⟨between, rfl, rfl⟩
    · exact .inr ⟨[], by simp, ⟨word, rfl, token⟩, rfl⟩
    · exact .inl ⟨between, rfl, ⟨word, rfl, token⟩, closedLeft⟩

/-- If the first word is not the connective, it is one of those before it. -/
theorem Outside.of_cons (h : Outside (word :: behind) left c right) :
    (left = [] ∧ Token.ofWord word = .connective c) ∨ ∃ more, left = word :: more ∧
      (depthBehind [word] = 0 → Outside behind more c right) := by
  obtain ⟨⟨found, parts, token⟩, closed⟩ := h
  rcases List.cons_eq_append_iff.1 parts with ⟨rfl, same⟩ | ⟨more, rfl, later⟩
  · obtain ⟨rfl, _⟩ := List.cons.inj same
    exact .inl ⟨rfl, token⟩
  · refine .inr ⟨more, rfl, ?_⟩
    intro neutral
    rw [depthBehind_cons, neutral, Int.zero_add] at closed
    exact ⟨⟨found, later, token⟩, closed⟩

/-- A single word that is no connective has none in it. -/
theorem not_outside_singleton (other : Token.ofWord word ≠ .connective c) :
    ¬ Outside [word] left c right := by
  rintro ⟨⟨found, parts, token⟩, _⟩
  rcases List.cons_eq_append_iff.1 parts with ⟨_, same⟩ | ⟨_, _, none⟩
  · obtain ⟨rfl, _⟩ := List.cons.inj same
    exact other token
  · simp at none

/-- A connective outside of all parentheses is that of the join, or it is so on either side. -/
theorem Outside.of_join (token : Token.ofWord word = .connective c) (closed : depthBehind left = 0)
    (h : Outside (left ++ word :: right) front d behind) :
    (∃ more, Outside left front d more) ∨ (front = left ∧ d = c) ∨
      ∃ more, front = left ++ word :: more ∧ Outside right more d behind := by
  rcases h.of_append closed with ⟨more, _, before⟩ | ⟨_, rfl, here⟩
  · exact .inl ⟨more, before⟩
  · rcases here.of_cons with ⟨rfl, found⟩ | ⟨more, rfl, later⟩
    · rw [token] at found
      exact .inr (.inl ⟨List.append_nil left, (Token.connective.inj found).symm⟩)
    · exact .inr (.inr ⟨more, rfl, later (depthBehind_connective token)⟩)

theorem Free.of_append_left (free : Free tier (left ++ right)) : Free tier left := by
  intro front c behind outside
  exact free front c _ (outside.append_right right)

theorem Free.of_append_right (closed : depthBehind left = 0) (free : Free tier (left ++ right)) :
    Free tier right := by
  intro front c behind outside
  exact free _ c behind (outside.append_left closed)

theorem Free.of_outside (free : Free tier words) (outside : Outside words left c right) :
    Free tier left ∧ Free tier right := by
  obtain ⟨⟨word, rfl, token⟩, closed⟩ := outside
  have behind : Free tier (word :: right) := free.of_append_right closed
  exact ⟨free.of_append_left, Free.of_append_right (depthBehind_connective token) behind⟩

/-- Behind the last connective of a tier there is none. -/
theorem Last.free_right (h : Last tier words left c right) : Free tier right := by
  intro front d behind outside among
  obtain ⟨⟨⟨word, rfl, token⟩, closed⟩, _, last⟩ := h
  have single : depthBehind [word] = 0 := depthBehind_connective token
  have later := (outside.append_left single).append_left closed
  have bound := last _ d behind later among
  simp only [List.length_append, List.length_singleton] at bound
  omega

end

/-! ## Parts of an expression -/

section

variable {phrase : Phrase} {tier : Tier} {words left right : List String} {word : String}
  {c : Connective} {formula l r : Formula}

/-- A connective outside of the parentheses of a phrase is one that goes on with such a phrase. -/
theorem joins_of_outside (derives : Derives phrase (tokensOf words) formula) :
    ∀ {left right : List String}, Outside words left c right → phrase.Joins c := by
  induction derives using Derives.words_induction with
  | literal token =>
    intro left right outside
    exact absurd outside (not_outside_singleton (by simp [token]))
  | name token =>
    intro left right outside
    exact absurd outside (not_outside_singleton (by simp [token]))
  | @not word _ _ token _ ih =>
    intro left right outside
    have neutral : depthBehind [word] = 0 := by rw [depthBehind_singleton, token]
    rcases outside.of_cons with ⟨_, first⟩ | ⟨_, _, later⟩
    · exact absurd (token.symm.trans first) Token.noConfusion
    · exact ih (later neutral)
  | group inside =>
    -- between the parentheses the depth is never 0
    intro left right outside
    obtain ⟨⟨word, parts, token⟩, closed⟩ := outside
    rcases List.cons_eq_append_iff.1 parts with ⟨_, same⟩ | ⟨more, rfl, within⟩
    · obtain ⟨rfl, _⟩ := List.cons.inj same
      exact absurd (Token.ofWord_opening.symm.trans token) Token.noConfusion
    · rcases List.prefix_concat_iff.1 ⟨_, within.symm⟩ with rfl | ⟨tail, rest⟩
      · simp at within
      · have bound : 0 ≤ depthBehind more := depthBehind_nonneg inside rest.symm
        have opened : depthBehind ["("] = 1 := by decide
        rw [depthBehind_cons, opened] at closed
        omega
  | single _ ih =>
    intro left right outside
    exact Phrase.joins_chain_iff.2 (.inr (ih outside))
  | join token first _ ihLeft ihRight =>
    intro left right outside
    rcases outside.of_join token (depthBehind_of_derives first) with
      ⟨_, before⟩ | ⟨_, rfl⟩ | ⟨_, _, later⟩
    · exact ihLeft before
    · exact Phrase.joins_chain_iff.2 (.inl rfl)
    · exact Phrase.joins_chain_iff.2 (.inr (ihRight later))

theorem free_of_operand (derives : Derives (.operand tier) (tokensOf words) formula) :
    Free tier words := by
  intro left c right outside among
  obtain rfl := Tier.mem_connectives_iff.1 among
  exact Phrase.not_joins_operand c (joins_of_outside derives outside)

/-- No comparison stands in a term outside of all parentheses, and no connective in a factor. -/
theorem free_of_factor (derives : Derives .factor (tokensOf words) formula) (tier : Tier) :
    Free tier words :=
  free_of_operand (derives.operand_of_factor tier)

/-- A join is at the last connective of its tier. -/
theorem last_of_join (token : Token.ofWord word = .connective c)
    (first : Derives (.chain c.tier) (tokensOf left) l)
    (second : Derives (.operand c.tier) (tokensOf right) r) :
    Last c.tier (left ++ word :: right) left c right := by
  have closed := depthBehind_of_derives first
  refine ⟨⟨⟨word, rfl, token⟩, closed⟩, Tier.mem_connectives c, ?_⟩
  intro front d behind outside among
  rcases outside.of_join token closed with ⟨_, before⟩ | ⟨here, _⟩ | ⟨more, _, later⟩
  · obtain ⟨⟨_, parts, _⟩, _⟩ := before
    rw [parts, List.length_append]
    exact Nat.le_add_right _ _
  · exact Nat.le_of_eq (congrArg List.length here)
  · exact absurd among (free_of_operand second _ d _ later)

/-- A chain is an operand of its tier, or a join of a chain and one more operand. -/
theorem operand_or_join_of_chain (derives : Derives (.chain tier) (tokensOf words) formula) :
    Derives (.operand tier) (tokensOf words) formula ∨
      ∃ (left : List String) (c : Connective) (right : List String) (l r : Formula),
        Last tier words left c right ∧ Derives (.chain tier) (tokensOf left) l ∧
          Derives (.operand tier) (tokensOf right) r ∧ formula = .binary c l r := by
  cases derives using Derives.words_induction with
  | single operand _ => exact .inl operand
  | join token first second _ _ =>
    exact .inr ⟨_, _, _, _, _, last_of_join token first second, first, second, rfl⟩

/-- Without a connective of the tier, a chain is an operand. -/
theorem operand_of_free (free : Free tier words)
    (derives : Derives (.chain tier) (tokensOf words) formula) :
    Derives (.operand tier) (tokensOf words) formula := by
  rcases operand_or_join_of_chain derives with operand | ⟨left, c, right, _, _, last, _⟩
  · exact operand
  · exact absurd last.among (free left c right last.toOutside)

end

/-! ## The root -/

/-- The formula has the root that the words tell from the outside, and for operands what the words
on either side of it are read as. -/
inductive Rooted (words : List String) : Formula → Prop where
  /-- The last comparison outside of all parentheses, if there is one. -/
  | comparison {left right : List String} {c : Connective} {l r : Formula}
      (last : Last .comparison words left c right)
      (first : Parse.ReadsWhole left l) (second : Parse.ReadsWhole right r) :
      Rooted words (.binary c l r)
  /-- Otherwise, the last logical connective there, if there is one. -/
  | logical {left right : List String} {c : Connective} {l r : Formula}
      (free : Free .comparison words) (last : Last .logical words left c right)
      (first : Parse.ReadsWhole left l) (second : Parse.ReadsWhole right r) :
      Rooted words (.binary c l r)
  /-- Otherwise a negation, if that is the first word. -/
  | negation {word : String} {rest : List String} {operand : Formula}
      (free : ∀ tier, Free tier words) (parts : words = word :: rest)
      (token : Token.ofWord word = .not) (inner : Parse.ReadsWhole rest operand) :
      Rooted words (.not operand)
  /-- Otherwise what stands between the first word and the last, if the first one is a
  parenthesis. -/
  | group {inner : List String} {formula : Formula}
      (free : ∀ tier, Free tier words) (parts : words = "(" :: (inner ++ [")"]))
      (inside : Parse.ReadsWhole inner formula) : Rooted words formula
  /-- Otherwise a single word. -/
  | literal {word : String} {value : Bool} (parts : words = [word])
      (token : Token.ofWord word = .literal value) : Rooted words (.const value)
  | name {word x : String} (parts : words = [word]) (token : Token.ofWord word = .name x) :
      Rooted words (.var x)

section

variable {words : List String} {formula : Formula}

/-- A factor has no connective outside of all parentheses, so its first word is its root. -/
theorem rooted_of_factor (derives : Derives .factor (tokensOf words) formula) :
    Rooted words formula := by
  have free : ∀ tier, Free tier words := free_of_factor derives
  cases derives using Derives.words_induction with
  | literal token => exact .literal rfl token
  | name token => exact .name rfl token
  | not token operand _ =>
    exact .negation free rfl token (Parse.readsWhole_iff_derives.2 (.single (.single operand)))
  | group inside _ => exact .group free rfl (Parse.readsWhole_iff_derives.2 inside)

theorem rooted_of_derives (derives : Derives .expression (tokensOf words) formula) :
    Rooted words formula := by
  rcases operand_or_join_of_chain derives with
    term | ⟨left, c, right, l, r, last, first, second, rfl⟩
  · have free : Free .comparison words := free_of_operand term
    rcases operand_or_join_of_chain term with
      factor | ⟨left, c, right, l, r, last, first, second, rfl⟩
    · exact rooted_of_factor factor
    · exact .logical free last (Parse.readsWhole_iff_derives.2 (.single first))
        (Parse.readsWhole_iff_derives.2 (.single (.single second)))
  · exact .comparison last (Parse.readsWhole_iff_derives.2 first)
      (Parse.readsWhole_iff_derives.2 (.single second))

/-- An expression without a connective outside of all parentheses is a factor. -/
theorem factor_of_free (free : ∀ tier, Free tier words)
    (derives : Derives .expression (tokensOf words) formula) :
    Derives .factor (tokensOf words) formula :=
  operand_of_free (free .logical) (operand_of_free (free .comparison) derives)

theorem derives_of_last {tier : Tier} {left right : List String} {c : Connective} {l r : Formula}
    (last : Last tier words left c right) (first : Derives (.chain tier) (tokensOf left) l)
    (second : Derives (.operand tier) (tokensOf right) r) :
    Derives (.chain tier) (tokensOf words) (.binary c l r) := by
  obtain ⟨⟨⟨word, rfl, token⟩, _⟩, among, _⟩ := last
  simpa [token] using Derives.join among first second

/-- Words with such a root are an expression.  What is read behind the last connective of a tier
may be a chain of a looser tier on its own, but has none of its connectives here. -/
theorem derives_of_rooted (rooted : Rooted words formula) :
    Derives .expression (tokensOf words) formula := by
  cases rooted with
  | comparison last first second =>
    have right := operand_of_free last.free_right (Parse.readsWhole_iff_derives.1 second)
    exact derives_of_last last (Parse.readsWhole_iff_derives.1 first) right
  | logical free last first second =>
    obtain ⟨freeLeft, freeRight⟩ := free.of_outside last.toOutside
    have left := operand_of_free freeLeft (Parse.readsWhole_iff_derives.1 first)
    have right := operand_of_free freeRight (Parse.readsWhole_iff_derives.1 second)
    exact .single (derives_of_last last left (operand_of_free last.free_right right))
  | @negation word rest operand free parts token inner =>
    subst parts
    have single : depthBehind [word] = 0 := by rw [depthBehind_singleton, token]
    have freeRest : ∀ tier, Free tier rest := fun tier =>
      Free.of_append_right single (free tier)
    have factor := factor_of_free freeRest (Parse.readsWhole_iff_derives.1 inner)
    have negated : Derives .factor (tokensOf (word :: rest)) (.not operand) := by
      simpa [token] using factor.not
    exact .single (.single negated)
  | group _ parts inside =>
    subst parts
    exact .single (.single (Parse.readsWhole_iff_derives.1 inside).group_words)
  | @literal word value parts token =>
    subst parts
    have leaf : Derives .factor (tokensOf [word]) (.const value) := by
      simpa [token] using Derives.literal value
    exact .single (.single leaf)
  | @name word x parts token =>
    subst parts
    have leaf : Derives .factor (tokensOf [word]) (.var x) := by
      simpa [token] using Derives.name x
    exact .single (.single leaf)

end

/-- Words are read to the last one just when their root, as it is told from the outside, joins
parts that are read to the last word.  The root is the last comparison outside of all parentheses;
without one it is the last logical connective there; without any connective it is a negation in
front, or else the parentheses around the whole are taken off, or else there is a single word. -/
theorem Parse.readsWhole_iff_rooted (words : List String) (formula : Formula) :
    ReadsWhole words formula ↔ Rooted words formula := by
  rw [readsWhole_iff_derives]
  exact ⟨rooted_of_derives, derives_of_rooted⟩

end Propositional
