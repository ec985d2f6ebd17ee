import Propositional.Proofs.Dependence
import Propositional.Proofs.Rereading

set_option autoImplicit false

/-!
# Names that are read

A formula that was read has the names among its words for leaves: none is lost, none is made
up, and each stands in the place and as often as its word does.  Whatever the text, every
name of the formula is therefore a proper one.
-/

namespace Propositional

/-- The name that a token is, if it is one. -/
def Token.name? : Token → Option String
  | .name x => some x
  | .not | .literal _ | .connective _ | .opening | .closing | .unknown _ => none

theorem Token.name?_eq_some_iff {token : Token} {x : String} :
    token.name? = some x ↔ token = .name x := by
  cases token <;> simp [name?]

/-- The leaves of a formula are the names among its tokens, from left to right. -/
theorem Derives.leaves_eq {phrase : Phrase} {tokens : List Token} {formula : Formula}
    (derives : Derives phrase tokens formula) : formula.leaves = tokens.filterMap Token.name? := by
  induction derives with
  | literal value => rfl
  | name x => rfl
  | not _ ih => exact ih
  | group _ ih =>
    have closing : [Token.closing].filterMap Token.name? = [] := rfl
    rw [List.filterMap_cons_none rfl, List.filterMap_append, closing, List.append_nil, ih]
  | single _ ih => exact ih
  | join _ _ _ ihLeft ihRight =>
    rw [Formula.leaves, List.filterMap_append, List.filterMap_cons_none rfl, ihLeft, ihRight]

/-- Of the words, those that are proper names stand for names, and for themselves. -/
theorem filterMap_name?_tokensOf (words : List String) :
    (tokensOf words).filterMap Token.name? = words.filter Token.isName := by
  have guarded : Token.name? ∘ Token.ofWord = Option.guard Token.isName := by
    funext word
    refine Option.ext fun x => ?_
    rw [Function.comp_apply, Token.name?_eq_some_iff, Token.ofWord_eq_name_iff,
      Option.guard_eq_some_iff]
    refine and_congr_right ?_
    rintro rfl
    exact Iff.rfl
  rw [List.filterMap_map, guarded, List.filterMap_eq_filter]

namespace Parse

variable {words : List String} {formula : Formula}

/-- The leaves of a formula that was read are the names among the words that were taken. -/
theorem leaves_of_ok (read : (ofWords words).outcome = .ok formula) :
    formula.leaves = (words.take (ofWords words).taken).filter Token.isName := by
  obtain ⟨_, derives, _⟩ := Begins.of_ofWords read
  rw [derives.leaves_eq, filterMap_name?_tokensOf]

/-- Reading makes no improper name. -/
theorem named_of_ok (read : (ofWords words).outcome = .ok formula) : formula.Named := by
  intro x among
  rw [leaves_of_ok read] at among
  exact (List.mem_filter.1 among).2

theorem mem_names_of_ok (read : (ofWords words).outcome = .ok formula) {x : String} :
    x ∈ formula.names ↔ x ∈ words.take (ofWords words).taken ∧ Token.isName x = true := by
  rw [Formula.mem_names, leaves_of_ok read, List.mem_filter]

/-- What was taken gives the same formula before any other words that do not go on with a
connective. -/
theorem ofWords_take_append (read : (ofWords words).outcome = .ok formula) {tail : List String}
    (last : EndsBefore tail) :
    (ofWords (words.take (ofWords words).taken ++ tail)).outcome = .ok formula := by
  obtain ⟨_, derives, _⟩ := Begins.of_ofWords read
  exact (Begins.of_append derives last).ofWords_eq.1

/-- The list has each of the proper names among the words once, in the order of their bytes, and
nothing else. -/
structure ListsNames (words list : List String) : Prop where
  rising : list.Pairwise fun x y => Text.bytes x < Text.bytes y
  mem_iff : ∀ x : String, x ∈ list ↔ x ∈ words ∧ Token.isName x = true

/-- The names of a formula that was read are the one such list for the words that were taken. -/
theorem listsNames_iff_of_ok (read : (ofWords words).outcome = .ok formula) {list : List String} :
    ListsNames (words.take (ofWords words).taken) list ↔ list = formula.names := by
  constructor
  · rintro ⟨rising, members⟩
    have ordered : list.Pairwise (· < ·) := rising.imp Text.bytes_lt_bytes_iff.1
    refine (Formula.names_eq_of_pairwise ordered fun x => ?_).symm
    rw [members, ← mem_names_of_ok read, Formula.mem_names]
  · rintro rfl
    exact ⟨formula.pairwise_bytes_names, fun x => mem_names_of_ok read⟩

end Parse

/-- The columns of a formula that was read from a text are the proper names among the words that
were taken for it, sorted and without repetition.  Each of these words stands at a leaf, in its
own place, and there is no other leaf.  What was left over adds no column: a name that is found
only there is none, and other words in its place leave the formula as it is. -/
theorem Formula.names_ofText (text : String) (f : Formula) (read : Formula.ofText text = .ok f) :
    let taken := (Text.words text).take (Parse.ofText text).taken
    let rest := (Text.words text).drop (Parse.ofText text).taken
    (∀ list : List String, Parse.ListsNames taken list ↔ list = f.names) ∧
    (∀ x : String, f.Mentions x ↔ x ∈ taken ∧ Token.isName x = true) ∧
    f.leaves = taken.filter Token.isName ∧
    (∀ x ∈ rest, x ∉ taken → x ∉ f.names) ∧
    ∀ (other : String) (tail : List String), EndsBefore tail → Text.words other = taken ++ tail →
      Formula.ofText other = .ok f := by
  intro taken rest
  refine ⟨fun list => Parse.listsNames_iff_of_ok read, ?_, Parse.leaves_of_ok read, ?_, ?_⟩
  · intro x
    rw [← mem_names_iff_mentions]
    exact Parse.mem_names_of_ok read
  · intro x _ untaken listed
    exact untaken ((Parse.mem_names_of_ok read).1 listed).1
  · intro other tail last parts
    show (Parse.ofWords (Text.words other)).outcome = .ok f
    rw [parts]
    exact Parse.ofWords_take_append read last

/-- A name that comes twice has one column, in its place in the order.  A name that comes only in
what is left over has none, and a parenthesis in its place makes no difference. -/
theorem Formula.names_ofText_repeated :
    ∃ f : Formula, Formula.ofText "b and not a or b c and" = .ok f ∧ f.names = ["a", "b"] ∧
      Parse.ListsNames ["b", "and", "not", "a", "or", "b"] ["a", "b"] ∧ "c" ∉ f.names ∧
      Formula.ofText "b and not a or b )" = .ok f := by
  have words : Text.words "b and not a or b c and" =
      ["b", "and", "not", "a", "or", "b"] ++ ["c", "and"] := by decide
  have derives : Derives .expression (tokensOf ["b", "and", "not", "a", "or", "b"])
      (.binary .or (.binary .and (.var "b") (.not (.var "a"))) (.var "b")) := by
    have front : Derives .term [.name "b", .connective .and, .not, .name "a"]
        (.binary .and (.var "b") (.not (.var "a"))) :=
      Derives.join_on_tier (c := .and) (.single (.name "b")) (.not (.name "a"))
    have tokens : tokensOf ["b", "and", "not", "a", "or", "b"] =
        [.name "b", .connective .and, .not, .name "a"] ++ [.connective .or, .name "b"] := by decide
    rw [tokens]
    exact .single (Derives.join_on_tier (c := .or) front (.name "b"))
  have last : EndsBefore ["c", "and"] := by
    intro word c first
    obtain rfl : "c" = word := Option.some.inj first
    have name : Token.ofWord "c" = .name "c" := by decide
    rw [name]
    exact Token.noConfusion
  have closes : EndsBefore [")"] := by
    intro word c first
    obtain rfl : ")" = word := Option.some.inj first
    rw [Token.ofWord_closing]
    exact Token.noConfusion
  have begins := Begins.of_append derives last
  rw [← words] at begins
  obtain ⟨read, count⟩ := begins.ofWords_eq
  have front : (Text.words "b and not a or b c and").take
      (Parse.ofText "b and not a or b c and").taken = ["b", "and", "not", "a", "or", "b"] := by
    rw [Parse.ofText, count, words, List.take_left]
  obtain ⟨columns, _, _, absent, anyTail⟩ := names_ofText "b and not a or b c and" _ read
  have sorted : (binary .or (.binary .and (.var "b") (.not (.var "a"))) (.var "b")).names =
      ["a", "b"] := by decide
  rw [front] at columns absent anyTail
  refine ⟨_, read, sorted, (columns _).2 sorted.symm, absent "c" ?_ (by decide), ?_⟩
  · rw [Parse.ofText, count, words, List.drop_left]
    exact List.mem_cons_self
  · exact anyTail "b and not a or b )" [")"] closes (by decide)

end Propositional
