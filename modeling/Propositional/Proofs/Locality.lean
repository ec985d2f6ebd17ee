import Propositional.Proofs.Calls
import Propositional.Proofs.Reports

set_option autoImplicit false

/-!
# Progress and locality of reading

The readers go through the steps of the machine in `Proofs/Calls`, call by call.  So the machine
halts on every phrase and from every place, and the readers depend on no more than it does: not on
the words in front of the place, and not on what was reported about them.
-/

namespace Propositional

open StateTransition (Reaches eval mem_eval)

namespace Reader

/-- At place `p` of the words, after these reports. -/
def atPlace (words : List String) (p : Nat) (events : Array Event) : Reader where
  rest := words.drop p
  taken := p
  events := events

@[simp] theorem size_atPlace (words : List String) (p : Nat) (events : Array Event) :
    (atPlace words p events).size = words.length - p :=
  List.length_drop

/-- The reader goes through the words, and is as far as it has counted. -/
structure Along (words : List String) (r : Reader) : Prop where
  rest_eq : r.rest = words.drop r.taken
  taken_le : r.taken ≤ words.length

variable {words front rest : List String} {word : String} {r after : Reader} {p : Nat}

theorem along_atPlace (within : p ≤ words.length) (events : Array Event) :
    (atPlace words p events).Along words :=
  ⟨rfl, within⟩

namespace Along

/-- What has been reported is all that the words and the place do not tell. -/
theorem eq_atPlace (h : r.Along words) : r = atPlace words r.taken r.events := by
  rw [atPlace, ← h.rest_eq]

/-- The next word is the one at the place of the reader. -/
theorem getElem?_taken (h : r.Along words) : words[r.taken]? = r.rest.head? := by
  rw [h.rest_eq, List.head?_drop]

theorem getElem?_of_cons (h : r.Along words) (next : r.rest = word :: rest) :
    words[r.taken]? = some word := by
  rw [h.getElem?_taken, next, List.head?_cons]

theorem getElem?_of_nil (h : r.Along words) (next : r.rest = []) : words[r.taken]? = none := by
  rw [h.getElem?_taken, next, List.head?_nil]

/-- Taking words keeps a reader on its way. -/
theorem passes (h : r.Along words) (run : r.Passes front after) : after.Along words := by
  have behind : words.drop r.taken = front ++ after.rest := h.rest_eq.symm.trans run.rest_eq
  have count : words.length - r.taken = front.length + after.rest.length := by
    rw [← List.length_drop, behind, List.length_append]
  have within := h.taken_le
  refine ⟨?_, ?_⟩
  · rw [run.taken_eq, ← List.drop_drop, behind, List.drop_left]
  · rw [run.taken_eq]
    omega

theorem pass (h : r.Along words) (next : r.rest = word :: rest) :
    (r.pass word rest).Along words :=
  h.passes (.single next)

/-- So does reading, whatever comes of it. -/
theorem result {bound : Nat} {phrase : Phrase} {before : List Token} {found : Progress bound}
    (h : r.Along words) (sound : found.Sound phrase before r) : found.result.2.Along words := by
  obtain ⟨front, run⟩ := sound.exists_passes
  exact h.passes run

end Along

end Reader

/-! ## The readers as a run of the machine -/

namespace Progress

variable {bound large : Nat}

/-- Where the machine is when a phrase was read and its outcome is handed over. -/
def answered (waiting : List Calls.Frame) (p : Progress bound) : Calls.State :=
  ⟨.answer p.result.1, waiting, p.result.2.taken⟩

theorem answered_nil (p : Progress bound) : p.answered [] = .done p.result.1 p.result.2.taken :=
  rfl

@[simp] theorem answered_weaken (h : bound ≤ large) (waiting : List Calls.Frame)
    (p : Progress bound) : (p.weaken h).answered waiting = p.answered waiting := by
  simp only [answered, result_weaken]

end Progress

namespace Calls

open Reader (sound_operand sound_chain sound_factor)

variable {words : List String}

/-- Behind the expression in a parenthesis, one step closes it. -/
theorem step_close {r : Reader} (along : r.Along words) (inner : Formula) (waiting : List Frame) :
    step words ⟨.close inner, waiting, r.taken⟩ = some ((r.close inner).answered waiting) := by
  cases next : r.rest with
  | nil =>
    rw [Reader.close_of_nil next]
    simp only [step, along.getElem?_of_nil next, move, Option.map_some]
    rfl
  | cons word rest =>
    rw [Reader.close_of_cons next]
    simp only [step, along.getElem?_of_cons next, move]
    split <;> rfl

-- As for soundness, the induction is that of the readers.  Which calls wait is arbitrary,
-- since every call adds itself to them.
mutual

theorem reaches_chain (tier : Tier) (r : Reader) (along : r.Along words) (waiting : List Frame) :
    Reaches (step words) ⟨.read (.chain tier), waiting, r.taken⟩
      ((Reader.chain tier r).answered waiting) := by
  have call : step words ⟨.read (.chain tier), waiting, r.taken⟩ =
      some ⟨.read (.operand tier), .first tier :: waiting, r.taken⟩ := rfl
  have first := reaches_operand tier r along (.first tier :: waiting)
  have on := along.result (sound_operand tier r)
  cases read : Reader.operand tier r with
  | failed error after =>
    rw [read] at first
    rw [Reader.chain_of_failed read]
    exact (first.tail rfl).head call
  | read left after shorter =>
    rw [read] at first on
    rw [Reader.chain_of_read read, Progress.answered_weaken]
    have tail := reaches_extend tier left after on waiting
    exact ((first.tail rfl).trans tail).head call
termination_by (r.size, tier.depth + 1)

theorem reaches_operand (tier : Tier) (r : Reader) (along : r.Along words)
    (waiting : List Frame) :
    Reaches (step words) ⟨.read (.operand tier), waiting, r.taken⟩
      ((Reader.operand tier r).answered waiting) := by
  cases tier with
  | comparison =>
    rw [Reader.operand_comparison]
    exact reaches_chain .logical r along waiting
  | logical =>
    rw [Reader.operand_logical]
    exact reaches_factor r along waiting
termination_by (r.size, tier.depth)

theorem reaches_extend (tier : Tier) (left : Formula) (r : Reader) (along : r.Along words)
    (waiting : List Frame) :
    Reaches (step words) ⟨.extend tier left, waiting, r.taken⟩
      ((Reader.extend tier left r).answered waiting) := by
  cases next : r.rest with
  | nil =>
    rw [Reader.extend_of_nil next]
    refine .single ?_
    simp only [step, along.getElem?_of_nil next, move]
    rfl
  | cons word rest =>
    have here := along.getElem?_of_cons next
    rcases Reader.connective_or_other tier word with ⟨c, token, rfl⟩ | other
    · have shorter : (r.pass word rest).size < r.size := Reader.size_pass next
      have second := reaches_operand c.tier _ (along.pass next) (.right c left :: waiting)
      have on := (along.pass next).result (sound_operand c.tier (r.pass word rest))
      have take : step words ⟨.extend c.tier left, waiting, r.taken⟩ =
          some ⟨.read (.operand c.tier), .right c left :: waiting, r.taken + 1⟩ := by
        simp only [step, here, move, Option.map_some, token, if_true, Move.after]
      cases read : Reader.operand c.tier (r.pass word rest) with
      | failed error after =>
        rw [read] at second
        rw [Reader.extend_of_failed next token read]
        exact (second.tail rfl).head take
      | read right after less =>
        rw [read] at second on
        rw [Reader.extend_of_read next token read, Progress.answered_weaken]
        have tail := reaches_extend c.tier (.binary c left right) after on waiting
        exact ((second.tail rfl).trans tail).head take
    · rw [Reader.extend_of_other next other]
      refine .single ?_
      simp only [step, here, move, Option.map_some]
      split
      · rename_i c token
        rw [if_neg (other c (Option.some.inj token))]
        rfl
      · rfl
termination_by (r.size, 0)

theorem reaches_factor (r : Reader) (along : r.Along words) (waiting : List Frame) :
    Reaches (step words) ⟨.read .factor, waiting, r.taken⟩
      ((Reader.factor r).answered waiting) := by
  cases next : r.rest with
  | nil =>
    rw [Reader.factor_of_nil next]
    refine .single ?_
    simp only [step, along.getElem?_of_nil next, move]
    rfl
  | cons word rest =>
    have shorter : (r.pass word rest).size < r.size := Reader.size_pass next
    have here := along.getElem?_of_cons next
    rw [Reader.factor_of_cons next]
    cases token : Token.ofWord word with
    | literal | name | connective | closing | unknown =>
      refine .single ?_
      simp only [step, here, move, token]
      rfl
    | not =>
      have take : step words ⟨.read .factor, waiting, r.taken⟩ =
          some ⟨.read .factor, .negation :: waiting, r.taken + 1⟩ := by
        simp only [step, here, move, token, Option.map_some, Move.after]
      have inner := reaches_factor _ (along.pass next) (.negation :: waiting)
      cases read : Reader.factor (r.pass word rest) with
      | failed error after =>
        rw [read] at inner
        exact (inner.tail rfl).head take
      | read operand after less =>
        rw [read] at inner
        exact (inner.tail rfl).head take
    | opening =>
      have take : step words ⟨.read .factor, waiting, r.taken⟩ =
          some ⟨.read .expression, .group :: waiting, r.taken + 1⟩ := by
        simp only [step, here, move, token, Option.map_some, Move.after]
      have inside := reaches_chain .comparison _ (along.pass next) (.group :: waiting)
      have on := (along.pass next).result (sound_chain .comparison (r.pass word rest))
      cases read : Reader.chain .comparison (r.pass word rest) with
      | failed error after =>
        rw [read] at inside
        exact (inside.tail rfl).head take
      | read inner after less =>
        rw [read] at inside on
        rw [Progress.answered_weaken]
        exact ((inside.tail rfl).tail (step_close on inner waiting)).head take
termination_by (r.size, 0)

end

end Calls

/-! ## Any phrase from any place -/

/-- Reads a phrase. -/
def Reader.read (phrase : Phrase) (r : Reader) : Progress r.size :=
  match phrase with
  | .factor => r.factor
  | .chain tier => Reader.chain tier r

theorem Reader.sound_read (phrase : Phrase) (r : Reader) : (r.read phrase).Sound phrase [] r := by
  cases phrase with
  | factor => exact sound_factor r
  | chain tier => exact sound_chain tier r

/-- A run that begins with a phrase ends with what the reader makes of it. -/
theorem Calls.eval_begin {words : List String} {r : Reader} (along : r.Along words)
    (phrase : Phrase) :
    eval (step words) (.begin phrase r.taken) = .some ((r.read phrase).answered []) := by
  refine Part.eq_some_iff.2 (mem_eval.2 ⟨?_, step_done _ _ _⟩)
  cases phrase with
  | factor => exact reaches_factor r along []
  | chain tier => exact reaches_chain tier r along []

/-- Reading the phrase from place `p` of the words on returns the outcome, at place `q`. -/
structure Returns (words : List String) (phrase : Phrase) (p : Nat)
    (outcome : Except SyntaxError Formula) (q : Nat) : Prop where
  /-- The machine halts there, with the outcome. -/
  halts : eval (Calls.step words) (.begin phrase p) = .some (.done outcome q)
  /-- The reader gets there with it, whatever was reported before. -/
  reads (events : Array Event) : ∃ reports : Array Event,
    ((Reader.atPlace words p events).read phrase).result =
      (outcome, Reader.atPlace words q reports)

namespace Returns

variable {words : List String} {phrase : Phrase} {p q n : Nat}
  {outcome : Except SyntaxError Formula} {formula : Formula}

/-- Where the machine halts, the reader gets with the same outcome. -/
theorem of_halts (within : p ≤ words.length)
    (halts : eval (Calls.step words) (.begin phrase p) = .some (.done outcome q)) :
    Returns words phrase p outcome q := by
  refine ⟨halts, ?_⟩
  intro events
  have along := Reader.along_atPlace within events
  have run := Part.some_inj.1 ((Calls.eval_begin along phrase).symm.trans halts)
  rw [Progress.answered_nil, Calls.State.done_inj] at run
  have ends := along.result (Reader.sound_read phrase _)
  refine ⟨((Reader.atPlace words p events).read phrase).result.2.events, ?_⟩
  rw [← run.1, ← run.2, ← ends.eq_atPlace]

/-- The words in front of the place only add to the count. -/
theorem of_drop (within : p ≤ words.length)
    (behind : eval (Calls.step (words.drop p)) (.begin phrase 0) = .some (.done outcome n)) :
    Returns words phrase p outcome (p + n) := by
  refine of_halts within ?_
  have front : (words.take p).length = p := List.length_take_of_le within
  have run := Calls.eval_append (words.take p) (words.drop p) (.begin phrase 0)
  rw [List.take_append_drop, front, behind, Part.map_eq_map, Part.map_some] at run
  exact run

theorem le_length (returns : Returns words phrase p outcome q) (within : p ≤ words.length) :
    q ≤ words.length := by
  obtain ⟨reports, read⟩ := returns.reads #[]
  have ends := (Reader.along_atPlace within #[]).result (Reader.sound_read phrase _)
  rw [read] at ends
  exact ends.taken_le

/-- A phrase that is read has a word, and goes on as far as it can. -/
theorem of_ok (returns : Returns words phrase p (.ok formula) q) :
    p < q ∧ ∀ (word : String) (c : Connective),
      words[q]? = some word → Token.ofWord word = .connective c → ¬ phrase.Joins c := by
  obtain ⟨reports, result⟩ := returns.reads #[]
  obtain ⟨shorter, read⟩ := Progress.result_eq_ok_iff.1 result
  have sound := Reader.sound_read phrase (Reader.atPlace words p #[])
  rw [read] at sound
  obtain ⟨front, passes, derives, ends⟩ := sound
  refine ⟨?_, ?_⟩
  · simp only [Reader.size_atPlace] at shorter
    omega
  · intro word c next
    have rest : words.drop q = word :: words.drop (q + 1) := by
      obtain ⟨inside, rfl⟩ := List.getElem?_eq_some_iff.1 next
      exact List.drop_eq_getElem_cons inside
    exact ends word _ c rest

end Returns

/-- What is reported to be left over at a place within the words is all that follows. -/
theorem Parse.add_count_of_mem_leftover {words : List String} {q count : Nat} {first : String}
    (within : q ≤ words.length) (member : .ignored count first ∈ leftover (words.drop q)) :
    q + count = words.length := by
  have length := List.length_drop (i := q) (l := words)
  cases here : words.drop q with
  | nil =>
    rw [here] at member
    cases member
  | cons word rest =>
    rw [here] at member length
    obtain ⟨rfl, rfl⟩ := Event.ignored.inj (List.mem_singleton.1 member)
    rw [List.length_cons] at length
    omega

/-- From any place in any list of words, reading a factor, a term or an expression returns.  It
ends within the words and no earlier than it began, and behind at least one more of them if the
phrase was read.  From any other place with the same words from there on, the outcome is the same
and as many of them are taken.  A phrase that was read goes on as far as it can: behind a term
there is no logical connective, behind an expression none at all.  All along the run, the words
taken and the words that remain make up the list, and so they do in a report on those left over at
the end. -/
theorem Phrase.progress_and_locality (phrase : Phrase) (words : List String) {p : Nat}
    (within : p ≤ words.length) :
    ∃ (outcome : Except SyntaxError Formula) (q : Nat),
      Returns words phrase p outcome q ∧
      p ≤ q ∧ q ≤ words.length ∧
      (∀ formula : Formula, outcome = .ok formula →
        p < q ∧ ∀ (word : String) (c : Connective),
          words[q]? = some word → Token.ofWord word = .connective c → ¬ phrase.Joins c) ∧
      (∀ (other : List String) (k : Nat), k ≤ other.length → other.drop k = words.drop p →
        Returns other phrase k outcome (k + (q - p))) ∧
      (∀ s : Calls.State, Reaches (Calls.step words) (.begin phrase p) s →
        s.place + s.remaining words = words.length) ∧
      ∀ (count : Nat) (first : String),
        .ignored count first ∈ Parse.leftover (words.drop q) → q + count = words.length := by
  -- What comes of the words from `p` on, on their own, decides all the rest, here as in any
  -- other list that ends with them.
  have along := Reader.along_atPlace (Nat.zero_le (words.drop p).length) #[]
  have behind := Calls.eval_begin along phrase
  rw [Progress.answered_nil] at behind
  generalize ((Reader.atPlace (words.drop p) 0 #[]).read phrase).result = found at behind
  obtain ⟨outcome, after⟩ := found
  have returns : Returns words phrase p outcome (p + after.taken) := .of_drop within behind
  have inside := returns.le_length within
  refine ⟨outcome, p + after.taken, returns, Nat.le_add_right _ _, inside, ?_, ?_, ?_, ?_⟩
  · rintro formula rfl
    exact returns.of_ok
  · intro other k short same
    rw [Nat.add_sub_cancel_left]
    rw [← same] at behind
    exact .of_drop short behind
  · intro s run
    exact Calls.place_add_remaining run within
  · intro count first member
    exact Parse.add_count_of_mem_leftover inside member

/-- A term in parentheses is read up to the closing one, and without the opening one as well. -/
theorem Phrase.progress_and_locality_group :
    1 ≤ ["(", "a", "∧", "b", ")", "=", "c"].length ∧
      Returns ["(", "a", "∧", "b", ")", "=", "c"] .term 1
        (.ok (.binary .and (.var "a") (.var "b"))) 4 ∧
      Returns ["a", "∧", "b", ")", "=", "c"] .term 0
        (.ok (.binary .and (.var "a") (.var "b"))) 3 := by
  have within : 1 ≤ ["(", "a", "∧", "b", ")", "=", "c"].length := by decide
  obtain ⟨outcome, q, returns, _, _, _, elsewhere, _⟩ := Phrase.progress_and_locality .term _ within
  have run : Reaches (Calls.step ["(", "a", "∧", "b", ")", "=", "c"]) (.begin .term 1)
      (.done (.ok (.binary .and (.var "a") (.var "b"))) 4) := by
    iterate 7 refine .head rfl ?_
    exact .refl
  have halts := returns.halts.symm.trans
    (Part.eq_some_iff.2 (mem_eval.2 ⟨run, Calls.step_done _ _ _⟩))
  obtain ⟨rfl, rfl⟩ := Calls.State.done_inj.1 (Part.some_inj.1 halts)
  exact ⟨within, returns, elsewhere _ 0 (by decide) rfl⟩

end Propositional
