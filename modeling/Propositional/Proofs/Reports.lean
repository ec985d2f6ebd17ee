import Propositional.Proofs.Recognition

set_option autoImplicit false

/-!
# Reports

Each word that is taken is reported once, in order, under its number, and a warning follows
only about words that are left over.  Looking at a word without taking it is not reported, so
the reports are told by how many words were taken and whether they were an expression.
-/

namespace Propositional

namespace Event

/-- The reports on words that are taken one after the other, numbered on from `place`. -/
def takenFrom (place : Nat) : List String → List Event
  | [] => []
  | word :: rest => .taken (place + 1) word (.ofWord word) :: takenFrom (place + 1) rest

theorem takenFrom_eq_map_zipIdx (words : List String) :
    ∀ place : Nat, takenFrom place words =
      (words.zipIdx (place + 1)).map fun (word, number) => .taken number word (.ofWord word) := by
  induction words with
  | nil =>
    intro place
    rfl
  | cons word rest ih =>
    intro place
    rw [takenFrom, ih, List.zipIdx_cons, List.map_cons]

theorem severity_of_mem_takenFrom {event : Event} {words : List String} :
    ∀ {place : Nat}, event ∈ takenFrom place words → event.severity = .trace := by
  induction words with
  | nil =>
    intro place member
    cases member
  | cons word rest ih =>
    intro place member
    rcases List.mem_cons.1 member with rfl | member
    · rfl
    · exact ih member

/-- Nothing on the way is a cause for a warning. -/
theorem severity_ne_warn_of_mem {event : Event} {words : List String} {count place : Nat}
    (member : event ∈ reading count :: takenFrom place words) : event.severity ≠ .warn := by
  rcases List.mem_cons.1 member with rfl | member
  · exact Severity.noConfusion
  · rw [severity_of_mem_takenFrom member]
    exact Severity.noConfusion

end Event

/-- Read or not, a phrase is left behind some words that were taken. -/
theorem Progress.Sound.exists_passes {bound : Nat} {phrase : Phrase} {before : List Token}
    {r : Reader} {p : Progress bound} (sound : p.Sound phrase before r) :
    ∃ words, r.Passes words p.result.2 := by
  cases p with
  | read formula after shorter =>
    obtain ⟨words, passes, _, _⟩ := sound
    exact ⟨words, passes⟩
  | failed error after => exact sound

namespace Reader

variable {r after : Reader} {words : List String}

/-- What a reader reports on its way are the words it takes. -/
theorem Passes.events_eq (h : Passes r words after) :
    after.events.toList = r.events.toList ++ Event.takenFrom r.taken words := by
  induction h with
  | refl r => rw [Event.takenFrom, List.append_nil]
  | @cons r after word rest words next tail ih =>
    rw [ih, pass, Array.toList_push, List.append_assoc, List.singleton_append, Event.takenFrom]

end Reader

namespace Parse

variable {words : List String} {formula : Formula}

theorem taken_ofWords (words : List String) :
    (ofWords words).taken = (Reader.chain .comparison (Reader.start words)).result.2.taken := by
  unfold ofWords
  cases Reader.chain .comparison (Reader.start words) <;> rfl

/-- Only behind an expression is anything reported that was not on the way. -/
theorem events_eq_append_leftover (words : List String) :
    (ofWords words).events =
      (Reader.chain .comparison (Reader.start words)).result.2.events.toList ++
        if (ofWords words).outcome.isOk then
          leftover (Reader.chain .comparison (Reader.start words)).result.2.rest
        else [] := by
  unfold ofWords
  cases Reader.chain .comparison (Reader.start words) with
  | read formula after shorter => rfl
  | failed error after => exact (List.append_nil _).symm

/-- The words that were taken are reported, and those left over if what was taken is an
expression. -/
theorem events_ofWords (words : List String) :
    ∃ front rest : List String, words = front ++ rest ∧ (ofWords words).taken = front.length ∧
      (ofWords words).events = .reading words.length :: (Event.takenFrom 0 front ++
        if (ofWords words).outcome.isOk then leftover rest else []) := by
  obtain ⟨front, passes⟩ := (Reader.sound_chain .comparison (Reader.start words)).exists_passes
  have taken := passes.taken_eq
  have events := passes.events_eq
  refine ⟨front, _, passes.rest_eq, ?_, ?_⟩
  · rw [taken_ofWords, taken]
    exact Nat.zero_add _
  · rw [events_eq_append_leftover, events]
    rfl

/-- After the words of the expression, only those left over are reported. -/
theorem events_of_ok (read : (ofWords words).outcome = .ok formula) :
    ∃ front rest : List String, words = front ++ rest ∧ (ofWords words).taken = front.length ∧
      (ofWords words).events =
        .reading words.length :: (Event.takenFrom 0 front ++ leftover rest) := by
  obtain ⟨front, rest, parts, taken, events⟩ := events_ofWords words
  rw [read] at events
  exact ⟨front, rest, parts, taken, events⟩

/-- Words that are read to the last one give no cause for a warning. -/
theorem severity_ne_warn_of_readsWhole (whole : ReadsWhole words formula) :
    ∀ event ∈ (ofWords words).events, event.severity ≠ .warn := by
  obtain ⟨read, taken⟩ := whole
  obtain ⟨front, rest, parts, count, events⟩ := events_of_ok read
  have none : rest = [] := by
    have length : words.length = front.length + rest.length := by
      rw [← List.length_append, ← parts]
    exact List.eq_nil_of_length_eq_zero (by omega)
  intro event member
  rw [events, none, leftover, List.append_nil] at member
  exact Event.severity_ne_warn_of_mem member

/-- Where nothing was read, there is no cause for a warning either. -/
theorem severity_ne_warn_of_error {error : SyntaxError}
    (failed : (ofWords words).outcome = .error error) :
    ∀ event ∈ (ofWords words).events, event.severity ≠ .warn := by
  obtain ⟨front, rest, _, _, events⟩ := events_ofWords words
  rw [failed] at events
  intro event member
  rw [events, Except.isOk, Except.toBool, if_neg Bool.false_ne_true, List.append_nil] at member
  exact Event.severity_ne_warn_of_mem member

end Parse

end Propositional
