import Propositional.Proofs.Quotation
import Propositional.Proofs.Reports

set_option autoImplicit false

/-!
# Records

What stands of an event in a record is how much it matters and its wording.  The wording gives
numbers in figures, words in quotation marks, and a token in one of seven forms, so that the event
can be told from its record, whatever the words hold.
-/

namespace Propositional

/-! ## Numbers -/

namespace Text

variable {m n : Nat} {mark : Char} {rest more : List Char}

theorem not_mem_toString (other : mark.isDigit = false) (n : Nat) :
    mark ∉ (toString n).toList := by
  intro member
  rw [Nat.toString_eq_repr, Nat.toList_repr] at member
  have figure := Nat.isDigit_of_mem_toDigits (by decide) (by decide) member
  exact Bool.false_ne_true (other.symm.trans figure)

theorem eq_of_toString_eq (same : (toString m).toList = (toString n).toList) : m = n := by
  rw [Nat.toString_eq_repr, Nat.toString_eq_repr, Nat.toList_repr, Nat.toList_repr] at same
  have value := congrArg (Nat.ofDigitChars 10 · 0) same
  simpa using value

/-- A number in figures ends in front of what is no figure. -/
theorem eq_of_toString_append (other : mark.isDigit = false)
    (same : (toString m).toList ++ mark :: rest = (toString n).toList ++ mark :: more) :
    m = n ∧ rest = more := by
  obtain ⟨figures, behind⟩ :=
    append_mark_inj (not_mem_toString other m) (not_mem_toString other n) same
  exact ⟨eq_of_toString_eq figures, behind⟩

end Text

/-! ## Tokens -/

namespace Token

/-- The form that a token has in a record. -/
inductive Form : Token → String → Prop where
  | not : Form .not "Not"
  | true : Form (.literal true) "Literal(true)"
  | false : Form (.literal false) "Literal(false)"
  | and : Form (.connective .and) "Op(And)"
  | or : Form (.connective .or) "Op(Or)"
  | xor : Form (.connective .xor) "Op(Xor)"
  | imply : Form (.connective .imply) "Op(Imply)"
  | equal : Form (.connective .equal) "Op(Equal)"
  | notEqual : Form (.connective .notEqual) "Op(NotEqual)"
  | opening : Form .opening "LParen"
  | closing : Form .closing "RParen"
  | name (word : String) : Form (.name word) ("Variable(" ++ Text.quoted word ++ ")")
  | unknown (word : String) : Form (.unknown word) ("Unknown(" ++ Text.quoted word ++ ")")

theorem form_structural (token : Token) : token.Form token.structural := by
  cases token with
  | not => exact .not
  | literal value =>
    cases value with
    | false => exact .false
    | true => exact .true
  | connective c =>
    cases c with
    | and => exact .and
    | or => exact .or
    | xor => exact .xor
    | imply => exact .imply
    | equal => exact .equal
    | notEqual => exact .notEqual
  | opening => exact .opening
  | closing => exact .closing
  | name word => exact .name word
  | unknown word => exact .unknown word

/-- The two letters that a form begins with. -/
def initials : Token → List Char
  | .not => ['N', 'o']
  | .literal _ => ['L', 'i']
  | .connective _ => ['O', 'p']
  | .opening => ['L', 'P']
  | .closing => ['R', 'P']
  | .name _ => ['V', 'a']
  | .unknown _ => ['U', 'n']

theorem take_structural (token : Token) : token.structural.toList.take 2 = token.initials := by
  cases token with
  | not | opening | closing => decide
  | literal value => cases value <;> decide
  | connective c => cases c <;> decide
  | name word => simp [structural, initials]
  | unknown word => simp [structural, initials]

/-- The kind of a token is told by its initials, and the rest by what stands in parentheses. -/
theorem structural_injective {a b : Token} (same : a.structural = b.structural) : a = b := by
  have kind : a.initials = b.initials := by rw [← take_structural, ← take_structural, same]
  cases a with
  | not =>
    cases b with
    | not => rfl
    | _ => cases kind
  | opening =>
    cases b with
    | opening => rfl
    | _ => cases kind
  | closing =>
    cases b with
    | closing => rfl
    | _ => cases kind
  | literal value =>
    cases b with
    | literal other =>
      have inside : toString value = toString other := by simpa [structural] using same
      rw [Formula.delimits_toString.eq_iff.1 inside]
    | _ => cases kind
  | connective c =>
    cases b with
    | connective d =>
      have inside : c.name = d.name := by simpa [structural] using same
      rw [Connective.name_injective inside]
    | _ => cases kind
  | name word =>
    cases b with
    | name other =>
      have inside : Text.quoted word = Text.quoted other := by simpa [structural] using same
      rw [Text.delimits_quoted.eq_iff.1 inside]
    | _ => cases kind
  | unknown word =>
    cases b with
    | unknown other =>
      have inside : Text.quoted word = Text.quoted other := by simpa [structural] using same
      rw [Text.delimits_quoted.eq_iff.1 inside]
    | _ => cases kind

end Token

/-! ## Events -/

namespace Event

/-- What stands of an event in a record: how much it matters, and its wording. -/
def record (event : Event) : Severity × String := (event.severity, event.message)

section

variable {m n : Nat} {word other : String} {token token' : Token} {names others : List String}

theorem message_reading_inj (same : (reading m).message = (reading n).message) : m = n := by
  have letters := congrArg String.toList same
  simp only [message, String.toList_append, List.append_assoc] at letters
  exact (Text.eq_of_toString_append (by decide) (List.append_cancel_left letters)).1

theorem message_taken_inj
    (same : (taken m word token).message = (taken n other token').message) :
    m = n ∧ word = other ∧ token = token' := by
  have letters := congrArg String.toList same
  have colon : ": ".toList = [':', ' '] := by decide
  simp only [message, String.toList_append, List.append_assoc, colon, List.cons_append,
    List.nil_append] at letters
  obtain ⟨number, behind⟩ :=
    Text.eq_of_toString_append (by decide) (List.append_cancel_left letters)
  obtain ⟨quoted, form⟩ := Text.delimits_quoted word other _ _ (List.cons.inj behind).2
  have forms := String.toList_inj.1 (List.append_cancel_left form)
  exact ⟨number, quoted, Token.structural_injective forms⟩

theorem message_ignored_inj (same : (ignored m word).message = (ignored n other).message) :
    m = n ∧ word = other := by
  have letters := congrArg String.toList same
  simp only [message, String.toList_append, List.append_assoc] at letters
  obtain ⟨number, behind⟩ :=
    Text.eq_of_toString_append (by decide) (List.append_cancel_left letters)
  have quoted := String.toList_inj.1 (List.append_cancel_left behind)
  exact ⟨number, Text.delimits_quoted.eq_iff.1 quoted⟩

theorem message_columns_inj (same : (columns names).message = (columns others).message) :
    names = others := by
  have letters := congrArg String.toList same
  simp only [message, String.toList_append] at letters
  have lists := String.toList_inj.1 (List.append_cancel_left letters)
  exact Text.delimits_quotedList.eq_iff.1 lists

theorem message_unlistable_inj (same : (unlistable m).message = (unlistable n).message) :
    m = n := by
  have letters := congrArg String.toList same
  simp only [message, String.toList_append, List.append_assoc] at letters
  exact (Text.eq_of_toString_append (by decide) letters).1

theorem message_reading_ne : (reading m).message ≠ (columns names).message := by
  intro same
  have letters := congrArg String.toList same
  simp [message] at letters

/-- One of these warnings begins with a figure, and the other does not. -/
theorem message_ignored_ne : (ignored m word).message ≠ (unlistable n).message := by
  intro same
  have letters := congrArg String.toList same
  have start : "ignoring ".toList = "ignoring".toList ++ [' '] := by decide
  simp only [message, String.toList_append, List.append_assoc] at letters
  rw [start, List.append_assoc] at letters
  obtain ⟨figures, _⟩ :=
    Text.append_mark_inj (by decide) (Text.not_mem_toString (by decide) n) letters
  have letter : 'i' ∈ (toString n).toList := figures ▸ List.mem_cons_self
  exact Text.not_mem_toString (by decide) n letter

end

/-- An event is told from those of another kind by how much it matters, or else by how its wording
begins, and from those of its own kind by what the wording has in figures, quotation marks and
forms. -/
theorem record_injective {e other : Event} (same : e.record = other.record) : e = other := by
  obtain ⟨severity, message⟩ := Prod.mk.inj same
  cases e with
  | reading m =>
    cases other with
    | reading n => rw [message_reading_inj message]
    | columns names => exact absurd message message_reading_ne
    | taken _ _ _ | ignored _ _ | unlistable _ => cases severity
  | columns names =>
    cases other with
    | columns others => rw [message_columns_inj message]
    | reading n => exact absurd message.symm message_reading_ne
    | taken _ _ _ | ignored _ _ | unlistable _ => cases severity
  | taken m v s =>
    cases other with
    | taken n w t =>
      obtain ⟨rfl, rfl, rfl⟩ := message_taken_inj message
      rfl
    | reading _ | columns _ | ignored _ _ | unlistable _ => cases severity
  | ignored m v =>
    cases other with
    | ignored n w =>
      obtain ⟨rfl, rfl⟩ := message_ignored_inj message
      rfl
    | unlistable n => exact absurd message message_ignored_ne
    | reading _ | columns _ | taken _ _ _ => cases severity
  | unlistable m =>
    cases other with
    | unlistable n => rw [message_unlistable_inj message]
    | ignored n w => exact absurd message.symm message_ignored_ne
    | reading _ | columns _ | taken _ _ _ => cases severity

end Event

/-! ## Reading -/

namespace Parse

/-- The record of the words left over, if there is one, gives their number and the first. -/
theorem map_record_leftover (front rest : List String) (isExpression : Bool) :
    (if isExpression then leftover rest else []).map Event.record =
      if left : isExpression ∧ front.length < (front ++ rest).length then
        [(.warn, "ignoring " ++ toString ((front ++ rest).length - front.length)
          ++ " trailing token(s) starting at "
          ++ Text.quoted ((front ++ rest).get ⟨front.length, left.2⟩))]
      else [] := by
  cases isExpression with
  | false => simp
  | true =>
    cases rest with
    | nil => simp [leftover]
    | cons first more => simp [leftover, Event.record, Event.severity, Event.message]

/-- Reading a list of words leaves these records, in this order: how many words there are; each
word that was taken, once, under its number, with what it stands for; and, only if they were an
expression and did not come to the end, how many words are left over and which is the first.
The words that were taken are then the ones that the formula derives from, and a fault never
gives cause for a warning.  What a word stands for is written in one of the forms of `Token.Form`,
and no two events have the same record, so the numbers, the words and what they stand for can be
told from the records. -/
theorem records_ofWords (words : List String) :
    let k := (ofWords words).taken
    k ≤ words.length ∧
    (ofWords words).events.map Event.record =
      (.debug, "parsing " ++ toString words.length ++ " tokens") ::
        (((words.take k).zipIdx 1).map fun (word, number) =>
          (.trace, "token #" ++ toString number ++ ": " ++ Text.quoted word ++ " -> "
            ++ (Token.ofWord word).structural)) ++
        (if left : (ofWords words).outcome.isOk ∧ k < words.length then
          [(.warn, "ignoring " ++ toString (words.length - k) ++ " trailing token(s) starting at "
            ++ Text.quoted (words.get ⟨k, left.2⟩))]
        else []) ∧
    (∀ formula : Formula, (ofWords words).outcome = .ok formula →
      Derives .expression (tokensOf (words.take k)) formula) ∧
    (∀ error : SyntaxError, (ofWords words).outcome = .error error →
      ∀ event ∈ (ofWords words).events, event.severity ≠ .warn) ∧
    (∀ token : Token, token.Form token.structural) ∧
    ∀ e other : Event, e.record = other.record → e = other := by
  obtain ⟨front, rest, parts, taken, events⟩ := events_ofWords words
  have within : (ofWords words).taken ≤ words.length := by
    rw [taken, parts, List.length_append]
    exact Nat.le_add_right _ _
  refine ⟨within, ?_, ?_, ?_, Token.form_structural, fun e other => Event.record_injective⟩
  · rw [events, Event.takenFrom_eq_map_zipIdx]
    generalize (ofWords words).outcome.isOk = isExpression
    generalize (ofWords words).taken = k at taken
    subst taken parts
    rw [List.map_cons, List.map_append, map_record_leftover front, List.take_left, List.map_map]
    rfl
  · intro formula read
    exact (Begins.of_ofWords read).2.1
  · intro error failed
    exact severity_ne_warn_of_error failed

end Parse

end Propositional
