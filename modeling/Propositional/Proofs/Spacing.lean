import Propositional.Formula.Parse

set_option autoImplicit false

/-!
# White space

A text is cut at its white space and nowhere else.  Its words are not empty and hold no white
space, and strung together they are the text without it.  How wide a gap is, and of which
characters it is made, cannot be told from the words, and reading sees only the words.
-/

namespace Propositional

namespace Text

variable {s gap : String}

/-- There is nothing in the text but white space. -/
def Blank (s : String) : Prop := ∀ c ∈ s.toList, isBlank c = true

instance (s : String) : Decidable (Blank s) :=
  List.decidableBAll (fun c => isBlank c = true) s.toList

/-- The text is not empty, and there is no white space in it. -/
def IsWord (s : String) : Prop := s ≠ "" ∧ ∀ c ∈ s.toList, isBlank c = false

instance (s : String) : Decidable (IsWord s) :=
  @instDecidableAnd _ _ _ (List.decidableBAll (fun c => isBlank c = false) s.toList)

/-- The text without its white space. -/
def unspaced (s : String) : String := String.ofList (s.toList.filter fun c => !isBlank c)

/-! ## Gaps -/

theorem blank_singleton_iff {c : Char} : Blank (String.singleton c) ↔ isBlank c = true := by
  rw [Blank, String.toList_singleton, List.forall_mem_singleton]

theorem blank_append_iff {other : String} : Blank (gap ++ other) ↔ Blank gap ∧ Blank other := by
  rw [Blank, String.toList_append, List.forall_mem_append]
  rfl

theorem unspaced_append (s t : String) : unspaced (s ++ t) = unspaced s ++ unspaced t := by
  rw [unspaced, String.toList_append, List.filter_append, String.ofList_append]
  rfl

theorem unspaced_of_blank (blank : Blank gap) : unspaced gap = "" := by
  have none : gap.toList.filter (fun c => !isBlank c) = [] := by
    refine List.filter_eq_nil_iff.2 fun c member => ?_
    rw [blank c member]
    decide
  rw [unspaced, none, String.ofList_nil]

theorem unspaced_of_isWord (word : IsWord s) : unspaced s = s := by
  have every : s.toList.filter (fun c => !isBlank c) = s.toList := by
    refine List.filter_eq_self.2 fun c member => ?_
    rw [word.2 c member]
    rfl
  rw [unspaced, every, String.ofList_toList]

theorem wordsFrom_blanks_append {blanks : List Char} (blank : ∀ c ∈ blanks, isBlank c = true)
    (rest : List Char) : wordsFrom [] (blanks ++ rest) = wordsFrom [] rest := by
  induction blanks with
  | nil => rfl
  | cons c blanks ih =>
    obtain ⟨first, others⟩ := List.forall_mem_cons.1 blank
    rw [List.cons_append, wordsFrom_blank first, closeWord_nil, ih others]

/-- White space in front of a text is no part of any word. -/
theorem words_blank_append (blank : Blank gap) (s : String) : words (gap ++ s) = words s := by
  rw [words, String.toList_append, wordsFrom_blanks_append blank]
  rfl

/-- White space between two texts keeps their words apart. -/
theorem words_append_gap_append (blank : Blank gap) (nonempty : gap ≠ "") (left right : String) :
    words (left ++ gap ++ right) = words left ++ words right := by
  obtain ⟨c, blanks, parts⟩ := List.exists_cons_of_ne_nil (mt String.toList_eq_nil_iff.1 nonempty)
  have inside : ∀ d ∈ c :: blanks, isBlank d = true := parts ▸ blank
  obtain ⟨first, others⟩ := List.forall_mem_cons.1 inside
  have letters : (left ++ gap ++ right).toList = left.toList ++ c :: (blanks ++ right.toList) := by
    rw [String.toList_append, String.toList_append, parts, List.append_assoc]
    rfl
  rw [words, letters, wordsFrom_append_blank first, wordsFrom_blanks_append others, List.map_append]
  rfl

/-- White space behind a text is no part of any word. -/
theorem words_append_blank (blank : Blank gap) (s : String) : words (s ++ gap) = words s := by
  by_cases empty : gap = ""
  · rw [empty, String.append_empty]
  · have apart := words_append_gap_append blank empty s ""
    rw [String.append_empty] at apart
    rw [apart]
    exact List.append_nil _

theorem words_of_isWord (word : IsWord s) : words s = [s] := by
  rw [words, wordsFrom_nil_of_letters (mt String.toList_eq_nil_iff.1 word.1) word.2,
    List.map_singleton, String.ofList_toList]

/-! ## Layouts -/

/-- Words with the white space around them: some in front of them all, and some behind each, which
is wanting at most behind the last. -/
structure Layout where
  front : String
  /-- The words, each with what is behind it. -/
  parts : List (String × String)
  blank_front : Blank front
  isWord_and_blank : ∀ part ∈ parts, IsWord part.1 ∧ Blank part.2
  apart : ∀ part ∈ parts.dropLast, part.2 ≠ ""

namespace Layout

/-- The words alone. -/
def words (l : Layout) : List String := l.parts.map Prod.fst

/-- The text that is laid out. -/
def text (l : Layout) : String := l.front ++ String.join (l.parts.map fun part => part.1 ++ part.2)

theorem words_join_parts {parts : List (String × String)}
    (proper : ∀ part ∈ parts, IsWord part.1 ∧ Blank part.2)
    (apart : ∀ part ∈ parts.dropLast, part.2 ≠ "") :
    Text.words (String.join (parts.map fun part => part.1 ++ part.2)) = parts.map Prod.fst := by
  induction parts with
  | nil => decide
  | cons part rest ih =>
    obtain ⟨⟨word, blank⟩, others⟩ := List.forall_mem_cons.1 proper
    rw [List.map_cons, List.map_cons, String.join_cons]
    cases rest with
    | nil =>
      rw [List.map_nil, String.join_nil, String.append_empty, words_append_blank blank,
        words_of_isWord word]
      rfl
    | cons next more =>
      rw [List.dropLast_cons_cons] at apart
      obtain ⟨nonempty, later⟩ := List.forall_mem_cons.1 apart
      rw [words_append_gap_append blank nonempty, words_of_isWord word, ih others later]
      rfl

/-- The words are found again in the text. -/
theorem words_text (l : Layout) : Text.words l.text = l.words := by
  rw [text, words_blank_append l.blank_front, words_join_parts l.isWord_and_blank l.apart]
  rfl

theorem isWord_of_mem_words {l : Layout} {word : String} (member : word ∈ l.words) :
    IsWord word := by
  obtain ⟨part, among, rfl⟩ := List.mem_map.1 member
  exact (l.isWord_and_blank part among).1

theorem unspaced_join_parts {parts : List (String × String)}
    (proper : ∀ part ∈ parts, IsWord part.1 ∧ Blank part.2) :
    unspaced (String.join (parts.map fun part => part.1 ++ part.2)) =
      String.join (parts.map Prod.fst) := by
  induction parts with
  | nil => decide
  | cons part rest ih =>
    obtain ⟨⟨word, blank⟩, others⟩ := List.forall_mem_cons.1 proper
    rw [List.map_cons, List.map_cons, String.join_cons, String.join_cons, unspaced_append,
      unspaced_append, unspaced_of_isWord word, unspaced_of_blank blank, String.append_empty,
      ih others]

/-- Without white space, only the words are left. -/
theorem unspaced_text (l : Layout) : unspaced l.text = String.join l.words := by
  rw [text, unspaced_append, unspaced_of_blank l.blank_front, String.empty_append,
    unspaced_join_parts l.isWord_and_blank, words]

/-! ### The layout of a text -/

/-- More white space in front. -/
def widen (gap : String) (blank : Blank gap) (l : Layout) : Layout where
  front := gap ++ l.front
  parts := l.parts
  blank_front := blank_append_iff.2 ⟨blank, l.blank_front⟩
  isWord_and_blank := l.isWord_and_blank
  apart := l.apart

/-- One more word in front, with nothing before it. -/
def cons (word : String) (isWord : IsWord word) (l : Layout) (front : l.front ≠ "" ∨ l.parts = []) :
    Layout where
  front := ""
  parts := (word, l.front) :: l.parts
  blank_front := List.forall_mem_nil _
  isWord_and_blank := List.forall_mem_cons.2 ⟨⟨isWord, l.blank_front⟩, l.isWord_and_blank⟩
  apart := by
    cases behind : l.parts with
    | nil => exact List.forall_mem_nil _
    | cons next more =>
      have apart := l.apart
      rw [behind] at front apart
      have nonempty : l.front ≠ "" := front.resolve_right (List.cons_ne_nil next more)
      exact List.forall_mem_cons.2 ⟨nonempty, apart⟩

@[simp] theorem text_widen (gap : String) (blank : Blank gap) (l : Layout) :
    (l.widen gap blank).text = gap ++ l.text := by
  simp [widen, text, String.append_assoc]

@[simp] theorem text_cons (word : String) (isWord : IsWord word) (l : Layout)
    (front : l.front ≠ "" ∨ l.parts = []) : (cons word isWord l front).text = word ++ l.text := by
  simp [cons, text, String.append_assoc]

theorem exists_text_append {word : String} (clear : ∀ c ∈ word.toList, isBlank c = false)
    (l : Layout) (front : l.front ≠ "" ∨ l.parts = []) :
    ∃ l' : Layout, l'.text = word ++ l.text := by
  by_cases empty : word = ""
  · exact ⟨l, by rw [empty, String.empty_append]⟩
  · exact ⟨cons word ⟨empty, clear⟩ l front, text_cons word _ l front⟩

theorem exists_text_append_ofList (letters : List Char) :
    ∀ word : String, (∀ c ∈ word.toList, isBlank c = false) →
      ∃ l : Layout, l.text = word ++ String.ofList letters := by
  -- a word that has begun is carried along until white space or the end closes it
  induction letters with
  | nil =>
    intro word clear
    exact exists_text_append clear ⟨"", [], by decide, by decide, by decide⟩ (.inr rfl)
  | cons c rest ih =>
    intro word clear
    rw [String.ofList_cons]
    cases blank : isBlank c with
    | true =>
      obtain ⟨l, text⟩ := ih "" (List.forall_mem_nil _)
      rw [String.empty_append] at text
      rw [← text, ← text_widen (String.singleton c) (blank_singleton_iff.2 blank) l]
      refine exists_text_append clear _ (.inl ?_)
      simp [widen]
    | false =>
      have longer : ∀ d ∈ (word ++ String.singleton c).toList, isBlank d = false := by
        rw [String.toList_append, String.toList_singleton, List.forall_mem_append]
        exact ⟨clear, List.forall_mem_singleton.2 blank⟩
      obtain ⟨l, text⟩ := ih _ longer
      exact ⟨l, by rw [text, String.append_assoc]⟩

/-- Every text is one of words and of white space around them. -/
theorem exists_text (s : String) : ∃ l : Layout, l.text = s := by
  obtain ⟨l, text⟩ := exists_text_append_ofList s.toList "" (List.forall_mem_nil _)
  exact ⟨l, by rw [text, String.empty_append, String.ofList_toList]⟩

end Layout

/-! ## Other white space -/

/-- The second text is the first one with other white space in one of its gaps, or with more of it
around the whole. -/
inductive Respaced : String → String → Prop where
  | gap {old new : String} (left right : String) : Blank old → old ≠ "" → Blank new → new ≠ "" →
      Respaced (left ++ old ++ right) (left ++ new ++ right)
  | ends {front behind : String} (s : String) : Blank front → Blank behind →
      Respaced s (front ++ s ++ behind)

theorem words_of_respaced {s t : String} (respaced : Respaced s t) : words t = words s := by
  cases respaced with
  | gap left right old oldNonempty new newNonempty =>
    rw [words_append_gap_append new newNonempty, words_append_gap_append old oldNonempty]
  | ends s front behind => rw [words_append_blank behind, words_blank_append front]

/-- The words of a text are what white space leaves of it.  None of them is empty or holds white
space, and together they are the text without any.  White space keeps the words on its two sides
apart.  A list is that of the words just when the text is the list laid out with white space.  And
since reading sees no more than the words, it finds the same formula or the same fault, and so the
same value under any assignment, whatever white space there is between them and around them. -/
theorem words_exact :
    (∀ s : String, (∀ word ∈ words s, IsWord word) ∧ String.join (words s) = unspaced s) ∧
    (∀ (left right : String) (c : Char), isBlank c = true →
      words (left ++ String.singleton c ++ right) = words left ++ words right) ∧
    (∀ (s : String) (list : List String),
      words s = list ↔ ∃ l : Layout, l.text = s ∧ l.words = list) ∧
    ∀ s t : String, Respaced s t → Parse.ofText t = Parse.ofText s ∧
      ∀ a : Assignment, (Formula.ofText t).map (Formula.value · a) =
        (Formula.ofText s).map (Formula.value · a) := by
  refine ⟨?_, ?_, ?_, ?_⟩
  · intro s
    obtain ⟨l, rfl⟩ := Layout.exists_text s
    rw [Layout.words_text]
    exact ⟨fun word member => Layout.isWord_of_mem_words member, (Layout.unspaced_text l).symm⟩
  · intro left right c blank
    have nonempty : String.singleton c ≠ "" := by simp
    exact words_append_gap_append (blank_singleton_iff.2 blank) nonempty left right
  · intro s list
    constructor
    · rintro rfl
      obtain ⟨l, rfl⟩ := Layout.exists_text s
      exact ⟨l, rfl, (Layout.words_text l).symm⟩
    · rintro ⟨l, rfl, rfl⟩
      exact Layout.words_text l
  · intro s t respaced
    have same : Parse.ofText t = Parse.ofText s :=
      congrArg Parse.ofWords (words_of_respaced respaced)
    refine ⟨same, fun a => ?_⟩
    rw [Formula.ofText, Formula.ofText, same]

/-- An ideographic space and a line end are as good as a blank. -/
theorem words_exact_wide :
    isBlank '\u3000' = true ∧
      words ("a" ++ String.singleton '\u3000' ++ "b") = words "a" ++ words "b" ∧
      words " (\u3000\tnot\r\na" = ["(", "not", "a"] ∧
      Respaced ("a" ++ " " ++ "or b") ("a" ++ "\u2003\n" ++ "or b") ∧
      Parse.ofText ("a" ++ "\u2003\n" ++ "or b") = Parse.ofText ("a" ++ " " ++ "or b") := by
  have blank : isBlank '\u3000' = true := by decide
  let l : Layout :=
    ⟨" ", [("(", "\u3000\t"), ("not", "\r\n"), ("a", "")], by decide, by decide, by decide⟩
  have respaced : Respaced ("a" ++ " " ++ "or b") ("a" ++ "\u2003\n" ++ "or b") :=
    .gap "a" "or b" (by decide) (by decide) (by decide) (by decide)
  obtain ⟨_, cut, layout, reading⟩ := words_exact
  exact ⟨blank, cut "a" "b" '\u3000' blank, (layout _ _).2 ⟨l, by decide, by decide⟩, respaced,
    (reading _ _ respaced).1⟩

end Text

end Propositional
