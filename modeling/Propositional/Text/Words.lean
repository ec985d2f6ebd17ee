import Propositional.Text.Blank

set_option autoImplicit false

/-!
# Words

A text is a run of words with white space between them.  `words` takes them out
in order; how much white space there was, and which, is forgotten.
-/

namespace Propositional.Text

/-- Puts the word whose letters were collected, last first, in front of `rest`;
no letters make no word. -/
def closeWord (pending : List Char) (rest : List (List Char)) : List (List Char) :=
  if pending.isEmpty then rest else pending.reverse :: rest

/-- The words of a text that goes on with these characters, when the letters of
`pending`, last first, have been read since the last white space. -/
def wordsFrom (pending : List Char) : List Char → List (List Char)
  | [] => closeWord pending []
  | c :: rest =>
    if isBlank c then closeWord pending (wordsFrom [] rest) else wordsFrom (c :: pending) rest

/-- The words of a text, in order. -/
def words (s : String) : List String := (wordsFrom [] s.toList).map String.ofList

@[simp] theorem closeWord_nil (rest : List (List Char)) : closeWord [] rest = rest := rfl

theorem closeWord_append (pending : List Char) (rest more : List (List Char)) :
    closeWord pending rest ++ more = closeWord pending (rest ++ more) := by
  cases pending with
  | nil => rfl
  | cons c pending => rfl

@[simp] theorem wordsFrom_nil (pending : List Char) :
    wordsFrom pending [] = closeWord pending [] := rfl

theorem wordsFrom_blank {c : Char} (h : isBlank c = true) (pending rest : List Char) :
    wordsFrom pending (c :: rest) = closeWord pending (wordsFrom [] rest) := by
  simp [wordsFrom, h]

theorem wordsFrom_letter {c : Char} (h : isBlank c = false) (pending rest : List Char) :
    wordsFrom pending (c :: rest) = wordsFrom (c :: pending) rest := by
  simp [wordsFrom, h]

/-- White space cuts a text into two that are read apart. -/
theorem wordsFrom_append_blank {c : Char} (h : isBlank c = true) (left right : List Char) :
    ∀ pending, wordsFrom pending (left ++ c :: right)
      = wordsFrom pending left ++ wordsFrom [] right := by
  induction left with
  | nil =>
    intro pending
    rw [List.nil_append, wordsFrom_blank h, wordsFrom_nil, closeWord_append, List.nil_append]
  | cons d left ih =>
    intro pending
    rw [List.cons_append]
    cases hd : isBlank d with
    | true => rw [wordsFrom_blank hd, wordsFrom_blank hd, ih, closeWord_append]
    | false => rw [wordsFrom_letter hd, wordsFrom_letter hd, ih]

/-- Letters that follow one another go on with the pending word. -/
theorem wordsFrom_of_letters {letters : List Char} (h : ∀ c ∈ letters, isBlank c = false) :
    ∀ pending, wordsFrom pending letters = closeWord (letters.reverse ++ pending) [] := by
  induction letters with
  | nil =>
    intro pending
    rfl
  | cons c rest ih =>
    intro pending
    obtain ⟨first, others⟩ := List.forall_mem_cons.1 h
    rw [wordsFrom_letter first, ih others, List.reverse_cons, List.append_assoc]
    rfl

/-- A text without white space is one word, unless it is empty. -/
theorem wordsFrom_nil_of_letters {letters : List Char} (nonempty : letters ≠ [])
    (h : ∀ c ∈ letters, isBlank c = false) : wordsFrom [] letters = [letters] := by
  rw [wordsFrom_of_letters h, List.append_nil, closeWord, List.reverse_reverse, if_neg]
  simpa using nonempty

theorem mem_closeWord {word pending : List Char} {rest : List (List Char)}
    (h : word ∈ closeWord pending rest) : word = pending.reverse ∨ word ∈ rest := by
  rw [closeWord] at h
  split at h
  · exact .inr h
  · exact List.mem_cons.1 h

/-- A word has no white space in it. -/
theorem isBlank_of_mem_wordsFrom {letters word : List Char} :
    ∀ {pending : List Char}, (∀ c ∈ pending, isBlank c = false) →
      word ∈ wordsFrom pending letters → ∀ c ∈ word, isBlank c = false := by
  induction letters with
  | nil =>
    intro pending clear member c hc
    rcases mem_closeWord member with rfl | none
    · exact clear c (List.mem_reverse.1 hc)
    · cases none
  | cons d rest ih =>
    intro pending clear member c hc
    cases hd : isBlank d with
    | true =>
      rw [wordsFrom_blank hd] at member
      rcases mem_closeWord member with rfl | later
      · exact clear c (List.mem_reverse.1 hc)
      · exact ih (List.forall_mem_nil _) later c hc
    | false =>
      rw [wordsFrom_letter hd] at member
      refine ih ?_ member c hc
      exact List.forall_mem_cons.2 ⟨hd, clear⟩

theorem isBlank_of_mem_words {s word : String} (h : word ∈ words s) :
    ∀ c ∈ word.toList, isBlank c = false := by
  obtain ⟨letters, member, rfl⟩ := List.mem_map.1 h
  rw [String.toList_ofList]
  exact isBlank_of_mem_wordsFrom (List.forall_mem_nil _) member

end Propositional.Text
