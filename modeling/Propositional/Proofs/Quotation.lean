import Propositional.Proofs.Lines

set_option autoImplicit false

/-!
# What is quoted can be told apart

A text between quotation marks can be read back, character by character, up to the closing mark,
since no character is written with a bare mark in it.  So it is known from what is written which
text it is and where it ends, whatever comes behind.  The same is then true of lists of quoted texts
and of formulas in their structural form: nothing inside a name can pass for a part of what is
around it.
-/

namespace Propositional

namespace Text

/-- From what is written it can be told of which thing it is, and where it ends, whatever comes
behind. -/
def Delimits {α : Type} (write : α → String) : Prop :=
  ∀ (x y : α) (rest more : List Char),
    (write x).toList ++ rest = (write y).toList ++ more → x = y ∧ rest = more

theorem Delimits.eq_iff {α : Type} {write : α → String} (delimits : Delimits write) {x y : α} :
    write x = write y ↔ x = y := by
  refine ⟨fun same => ?_, congrArg write⟩
  exact (delimits x y [] [] (congrArg (fun s => s.toList ++ []) same)).1

/-! ## Numbers -/

/-- What a digit to base sixteen is worth. -/
def digitValue (d : Char) : Nat := if d.toNat < 58 then d.toNat - 48 else d.toNat - 87

/-- The number that digits to base sixteen stand for. -/
def ofHexadecimal (digits : List Char) : Nat :=
  digits.foldl (fun n d => 16 * n + digitValue d) 0

theorem digitValue_hexDigit {n : Nat} (small : n < 16) : digitValue (hexDigit n) = n := by
  have all : ∀ k < 16, digitValue (hexDigit k) = k := by decide
  exact all n small

theorem ofHexadecimal_hexadecimal (n : Nat) : ofHexadecimal (hexadecimal n) = n := by
  fun_induction hexadecimal n with
  | case1 n small =>
    show 16 * 0 + digitValue (hexDigit n) = n
    rw [digitValue_hexDigit small, Nat.mul_zero, Nat.zero_add]
  | case2 n large ih =>
    unfold ofHexadecimal at ih ⊢
    rw [List.foldl_append, ih]
    show 16 * (n / 16) + digitValue (hexDigit (n % 16)) = n
    rw [digitValue_hexDigit (Nat.mod_lt n (by decide))]
    exact Nat.div_add_mod n 16

theorem brace_not_mem_hexadecimal (n : Nat) : '\x7d' ∉ hexadecimal n := by
  have all : ∀ k < 16, '\x7d' ≠ hexDigit k := by decide
  intro member
  obtain ⟨k, small, same⟩ := exists_hexDigit_of_mem member
  exact all k small same

/-! ## Characters -/

/-- The character that the letter after a backslash stands for. -/
def ofShortEscape? : Char → Option Char
  | '0' => some '\x00'
  | 't' => some '\t'
  | 'r' => some '\r'
  | 'n' => some '\n'
  | '"' => some '"'
  | '\\' => some '\\'
  | _ => none

/-- The next character of a quoted text, and what is written behind it.  At the closing mark, and
at the end, there is none. -/
def unescape? : List Char → Option (Char × List Char)
  | [] => none
  | '"' :: _ => none
  | '\\' :: 'u' :: '\x7b' :: rest =>
    some (Char.ofNat (ofHexadecimal (rest.takeWhile (· != '\x7d'))),
      (rest.dropWhile (· != '\x7d')).drop 1)
  | '\\' :: letter :: rest => (ofShortEscape? letter).map (·, rest)
  | c :: rest => some (c, rest)

theorem unescape?_short {c letter : Char} (short : shortEscape? c = some letter)
    (rest : List Char) : unescape? ('\\' :: letter :: rest) = some (c, rest) := by
  unfold shortEscape? at short
  split at short <;> cases short <;> rfl

theorem unescape?_long (c : Char) (rest : List Char) :
    unescape? ('\\' :: 'u' :: '\x7b' :: (hexadecimal c.toNat ++ '\x7d' :: rest)) =
      some (c, rest) := by
  have free := brace_not_mem_hexadecimal c.toNat
  rw [unescape?, takeWhile_append_mark free, dropWhile_append_mark free,
    ofHexadecimal_hexadecimal, Char.ofNat_toNat]
  rfl

theorem unescape?_plain {c : Char} (plain : shortEscape? c = none) (rest : List Char) :
    unescape? (c :: rest) = some (c, rest) := by
  have mark : c ≠ '"' := by
    rintro rfl
    cases plain
  have backslash : c ≠ '\\' := by
    rintro rfl
    cases plain
  rw [unescape?]
  · exact mark
  · intro more same
    exact absurd same backslash
  · intro letter more same
    exact absurd same backslash

/-- What is written for a character is read as that character, whatever comes behind. -/
theorem unescape?_escape (c : Char) (rest : List Char) :
    unescape? (escape c ++ rest) = some (c, rest) := by
  unfold escape
  split
  · rename_i letter short
    exact unescape?_short short rest
  · rename_i plain
    split
    · simp only [List.cons_append, List.append_assoc, List.nil_append]
      exact unescape?_long c rest
    · exact unescape?_plain plain rest

/-! ## Quoted texts -/

theorem eq_of_flatMap_escape_append {letters others rest more : List Char}
    (same : letters.flatMap escape ++ '"' :: rest = others.flatMap escape ++ '"' :: more) :
    letters = others ∧ rest = more := by
  induction letters generalizing others with
  | nil =>
    cases others with
    | nil => exact ⟨rfl, (List.cons.inj same).2⟩
    | cons d others =>
      have next := congrArg unescape? same
      rw [List.flatMap_cons, List.append_assoc, unescape?_escape] at next
      cases next
  | cons c letters ih =>
    have next := congrArg unescape? same
    rw [List.flatMap_cons, List.append_assoc, unescape?_escape] at next
    cases others with
    | nil => cases next
    | cons d others =>
      rw [List.flatMap_cons, List.append_assoc, unescape?_escape] at next
      obtain ⟨rfl, tail⟩ := Prod.mk.inj (Option.some.inj next)
      obtain ⟨rfl, behind⟩ := ih tail
      exact ⟨rfl, behind⟩

/-- A quoted text ends at its closing mark, and nowhere before. -/
theorem delimits_quoted : Delimits quoted := by
  intro s t rest more same
  simp only [quoted, String.toList_ofList, List.cons_append, List.append_assoc, List.nil_append,
    List.cons.injEq, true_and] at same
  obtain ⟨letters, behind⟩ := eq_of_flatMap_escape_append same
  exact ⟨String.toList_inj.1 letters, behind⟩

/-! ## Lists of quoted texts -/

theorem toList_quoted (s : String) :
    (quoted s).toList = '"' :: (s.toList.flatMap escape ++ ['"']) := by
  rw [quoted, String.toList_ofList]

/-- What is written of a list behind its first text. -/
def listTail : List String → List Char
  | [] => [']']
  | s :: rest => ',' :: ' ' :: ((quoted s).toList ++ listTail rest)

theorem toList_intercalate_quoted (s : String) (texts : List String) :
    (", ".intercalate ((s :: texts).map quoted)).toList ++ [']'] =
      (quoted s).toList ++ listTail texts := by
  have separator : ", ".toList = [',', ' '] := by decide
  induction texts generalizing s with
  | nil => rw [List.map_cons, List.map_nil, String.intercalate_singleton, listTail]
  | cons next rest ih =>
    have behind := ih next
    rw [List.map_cons] at behind
    rw [List.map_cons, List.map_cons, String.intercalate_cons_cons, String.toList_append,
      String.toList_append, List.append_assoc, List.append_assoc, behind, separator, listTail,
      List.cons_append, List.singleton_append]

theorem toList_quotedList_cons (s : String) (texts : List String) :
    (quotedList (s :: texts)).toList = '[' :: ((quoted s).toList ++ listTail texts) := by
  rw [← toList_intercalate_quoted, quotedList, String.toList_append, String.toList_append]
  rfl

theorem eq_of_listTail_append {texts others : List String} {rest more : List Char}
    (same : listTail texts ++ rest = listTail others ++ more) : texts = others ∧ rest = more := by
  induction texts generalizing others with
  | nil =>
    cases others with
    | nil => exact ⟨rfl, (List.cons.inj same).2⟩
    | cons t others => cases same
  | cons s texts ih =>
    cases others with
    | nil => cases same
    | cons t others =>
      have items : (quoted s).toList ++ (listTail texts ++ rest) =
          (quoted t).toList ++ (listTail others ++ more) := by
        simpa [listTail] using same
      obtain ⟨rfl, tail⟩ := delimits_quoted s t _ _ items
      obtain ⟨rfl, behind⟩ := ih tail
      exact ⟨rfl, behind⟩

/-- An empty list closes where another one has its first mark. -/
theorem delimits_quotedList : Delimits quotedList := by
  intro texts others rest more same
  cases texts with
  | nil =>
    cases others with
    | nil => exact ⟨rfl, List.append_cancel_left same⟩
    | cons t others =>
      rw [toList_quotedList_cons, toList_quoted] at same
      cases same
  | cons s texts =>
    cases others with
    | nil =>
      rw [toList_quotedList_cons, toList_quoted] at same
      cases same
    | cons t others =>
      rw [toList_quotedList_cons, toList_quotedList_cons, List.cons_append, List.cons_append,
        List.append_assoc, List.append_assoc] at same
      obtain ⟨rfl, tail⟩ := delimits_quoted s t _ _ (List.cons.inj same).2
      obtain ⟨rfl, behind⟩ := eq_of_listTail_append tail
      exact ⟨rfl, behind⟩

end Text

/-! ## Formulas -/

namespace Formula

open Text (Delimits)

/-- What a formula is at its root. -/
inductive Node where
  | var
  | const
  | not
  | binary (c : Connective)
  deriving DecidableEq

namespace Node

/-- Every node. -/
def all : List Node := [.var, .const, .not] ++ Connective.all.map .binary

theorem mem_all (n : Node) : n ∈ all := by
  cases n with
  | var => decide
  | const => decide
  | not => decide
  | binary c => exact List.mem_append_right _ (List.mem_map_of_mem c.mem_all)

/-- The name that a node has in the structural form. -/
def name : Node → String
  | .var => "Variable"
  | .const => "Constant"
  | .not => "Not"
  | .binary c => c.name

theorem eq_of_name_eq {m n : Node} (same : m.name = n.name) : m = n := by
  have apart : ∀ m ∈ all, ∀ n ∈ all, m.name = n.name → m = n := by decide
  exact apart m (mem_all m) n (mem_all n) same

theorem parenthesis_not_mem_name (n : Node) : '(' ∉ n.name.toList := by
  have free : ∀ n ∈ all, '(' ∉ n.name.toList := by decide
  exact free n (mem_all n)

end Node

variable {f g : Formula}

/-- The root of a formula. -/
def node : Formula → Node
  | .var _ => .var
  | .const _ => .const
  | .not _ => .not
  | .binary c _ _ => .binary c

/-- What the structural form has between the parentheses of the root. -/
def inside : Formula → String
  | .var name => Text.quoted name
  | .const value => toString value
  | .not operand => operand.structural
  | .binary _ left right => left.structural ++ ", " ++ right.structural

theorem toList_structural (f : Formula) :
    f.structural.toList = f.node.name.toList ++ '(' :: (f.inside.toList ++ [')']) := by
  cases f <;> simp [structural, node, Node.name, inside]

/-- The name before the first parenthesis tells the root. -/
theorem node_eq_of_structural_append {rest more : List Char}
    (same : f.structural.toList ++ rest = g.structural.toList ++ more) :
    f.node = g.node ∧ f.inside.toList ++ ')' :: rest = g.inside.toList ++ ')' :: more := by
  rw [toList_structural, toList_structural] at same
  simp only [List.append_assoc, List.cons_append, List.nil_append] at same
  obtain ⟨name, behind⟩ := Text.append_mark_inj f.node.parenthesis_not_mem_name
    g.node.parenthesis_not_mem_name same
  exact ⟨Node.eq_of_name_eq (String.toList_inj.1 name), behind⟩

theorem delimits_toString : Delimits (toString : Bool → String) := by
  intro a b rest more same
  cases a <;> cases b
  · exact ⟨rfl, List.append_cancel_left same⟩
  · cases same
  · cases same
  · exact ⟨rfl, List.append_cancel_left same⟩

/-- The root is told by its name, and what is inside of it by the same argument. -/
theorem delimits_structural : Delimits structural := by
  intro f
  induction f with
  | var x =>
    intro g rest more same
    obtain ⟨root, behind⟩ := node_eq_of_structural_append same
    cases g with
    | var y =>
      obtain ⟨rfl, tail⟩ := Text.delimits_quoted x y _ _ behind
      exact ⟨rfl, (List.cons.inj tail).2⟩
    | const _ | not _ | binary _ _ _ => cases root
  | const a =>
    intro g rest more same
    obtain ⟨root, behind⟩ := node_eq_of_structural_append same
    cases g with
    | const b =>
      obtain ⟨rfl, tail⟩ := delimits_toString a b _ _ behind
      exact ⟨rfl, (List.cons.inj tail).2⟩
    | var _ | not _ | binary _ _ _ => cases root
  | not operand ih =>
    intro g rest more same
    obtain ⟨root, behind⟩ := node_eq_of_structural_append same
    cases g with
    | not other =>
      obtain ⟨rfl, tail⟩ := ih other _ _ behind
      exact ⟨rfl, (List.cons.inj tail).2⟩
    | var _ | const _ | binary _ _ _ => cases root
  | binary c left right ihLeft ihRight =>
    intro g rest more same
    obtain ⟨root, behind⟩ := node_eq_of_structural_append same
    cases g with
    | binary d left' right' =>
      obtain rfl := Node.binary.inj root
      simp only [inside, String.toList_append, List.append_assoc] at behind
      obtain ⟨rfl, second⟩ := ihLeft left' _ _ behind
      obtain ⟨rfl, tail⟩ := ihRight right' _ _ (List.append_cancel_left second)
      exact ⟨rfl, (List.cons.inj tail).2⟩
    | var _ | const _ | not _ => cases root

/-- A name that looks like what comes behind it does not pass for that. -/
example : structural (.binary .and (.var "a\"), Variable(\"b") (.const true)) ≠
    structural (.binary .and (.var "a") (.binary .and (.var "b") (.const true))) := by
  rw [Ne, delimits_structural.eq_iff]
  decide

end Formula

/-- Two formulas have one structural form only if they are equal, and two lists of texts are quoted
alike only if they are, whatever the names and the texts hold.  No control character, hence no line
end, is in what is written of either. -/
theorem quotation_unambiguous (f g : Formula) (texts others : List String) :
    (f.structural = g.structural ↔ f = g) ∧
    (Text.quotedList texts = Text.quotedList others ↔ texts = others) ∧
    Text.Clean f.structural ∧ Text.Clean (Text.quotedList texts) := by
  refine ⟨?_, ?_, ?_, ?_⟩
  · exact Formula.delimits_structural.eq_iff
  · exact Text.delimits_quotedList.eq_iff
  · exact f.clean_structural
  · exact Text.clean_quotedList texts

end Propositional
