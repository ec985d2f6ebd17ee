import Mathlib.Data.Nat.Init
import Propositional.Proofs.Listing
import Propositional.Proofs.Printing

set_option autoImplicit false

/-!
# Printed tables, read back

The bars between the columns are the only ones in a table of proper names, so that each line
falls apart into its cells again: the heading into the names, and the line of a row into digits
and a result.  The rows are read back from what is printed below the dashes, and this part is
therefore the same for two formulas just when they have the same truth function up to the names.
-/

namespace Propositional

namespace Text

/-! ## Cells -/

/-- The cells of a line that goes on with these characters, when the characters of `pending`, last
first, have been read since the last bar.  A bar has a blank on either side. -/
def cellsFrom (pending : List Char) : List Char → List (List Char)
  | ' ' :: '|' :: ' ' :: rest => pending.reverse :: cellsFrom [] rest
  | c :: rest => cellsFrom (c :: pending) rest
  | [] => [pending.reverse]

/-- The cells of a line. -/
def cells (line : String) : List String := (cellsFrom [] line.toList).map String.ofList

@[simp] theorem cellsFrom_nil (pending : List Char) : cellsFrom pending [] = [pending.reverse] := by
  rw [cellsFrom]

theorem cellsFrom_bar (pending rest : List Char) :
    cellsFrom pending (' ' :: '|' :: ' ' :: rest) = pending.reverse :: cellsFrom [] rest := by
  rw [cellsFrom]

/-- A character that has no bar next to it belongs to the cell. -/
theorem cellsFrom_cons {rest : List Char} (apart : rest.head? ≠ some '|') (c : Char)
    (pending : List Char) : cellsFrom pending (c :: rest) = cellsFrom (c :: pending) rest := by
  rw [cellsFrom]
  rintro more _ rfl
  exact apart rfl

/-- Up to the next bar, or the end, everything belongs to the cell. -/
theorem cellsFrom_append {cell rest : List Char} (free : '|' ∉ cell)
    (apart : rest.head? ≠ some '|') :
    ∀ pending, cellsFrom pending (cell ++ rest) = cellsFrom (cell.reverse ++ pending) rest := by
  induction cell with
  | nil =>
    intro pending
    rfl
  | cons c cell ih =>
    intro pending
    obtain ⟨_, others⟩ := not_or.1 (mt List.mem_cons.2 free)
    have next : (cell ++ rest).head? ≠ some '|' := by
      cases cell with
      | nil => exact apart
      | cons d cell =>
        rintro same
        obtain rfl : d = '|' := Option.some.inj same
        exact others List.mem_cons_self
    rw [List.cons_append, cellsFrom_cons next, ih others, List.reverse_cons, List.append_assoc]
    rfl

theorem cellsFrom_intercalate {parts : List String} (nonempty : parts ≠ [])
    (free : ∀ part ∈ parts, '|' ∉ part.toList) :
    cellsFrom [] (" | ".intercalate parts).toList = parts.map String.toList := by
  have bar : " | ".toList = [' ', '|', ' '] := by decide
  induction parts with
  | nil => exact absurd rfl nonempty
  | cons part rest ih =>
    obtain ⟨first, others⟩ := List.forall_mem_cons.1 free
    cases rest with
    | nil =>
      have apart : ([] : List Char).head? ≠ some '|' := by decide
      have whole := cellsFrom_append first apart []
      rw [List.append_nil, List.append_nil] at whole
      rw [String.intercalate_singleton, whole, cellsFrom_nil, List.reverse_reverse]
      rfl
    | cons next more =>
      have tail := ih (List.cons_ne_nil next more) others
      have line : (" | ".intercalate (part :: next :: more)).toList =
          part.toList ++ ' ' :: '|' :: ' ' :: (" | ".intercalate (next :: more)).toList := by
        rw [String.intercalate_cons_cons, String.toList_append, String.toList_append, bar,
          List.append_assoc]
        rfl
      have apart : (' ' :: '|' :: ' ' :: (" | ".intercalate (next :: more)).toList).head? ≠
          some '|' := by
        rw [List.head?_cons]
        decide
      rw [line, cellsFrom_append first apart, cellsFrom_bar, tail, List.append_nil,
        List.reverse_reverse]
      rfl

/-- Cells without a bar in them are found again between the bars. -/
theorem cells_intercalate {parts : List String} (nonempty : parts ≠ [])
    (free : ∀ part ∈ parts, '|' ∉ part.toList) : cells (" | ".intercalate parts) = parts := by
  have back : String.ofList ∘ String.toList = id := funext fun _ => String.ofList_toList
  rw [cells, cellsFrom_intercalate nonempty free, List.map_map, back, List.map_id]

/-! ## Capitals -/

/-- The text with the letters of ASCII in upper case. -/
def capitals (s : String) : String := String.ofList (s.toList.map Char.toUpper)

/-- Letters stay letters, and no letter is a bar. -/
theorem bar_not_mem_capitals {s : String} (letters : ∀ c ∈ s.toList, c.isAlpha = true) :
    '|' ∉ (capitals s).toList := by
  intro member
  rw [capitals, String.toList_ofList] at member
  obtain ⟨c, among, same⟩ := List.mem_map.1 member
  have letter := isAlpha_toUpper c (letters c among)
  rw [same] at letter
  exact absurd letter (by decide)

/-! ## Digits -/

/-- A truth value as a digit. -/
def digit (b : Bool) : String := if b then "1" else "0"

/-- The truth value that a digit stands for. -/
def digit? (cell : String) : Option Bool :=
  if cell = "1" then some true else if cell = "0" then some false else none

/-- The truth value that is spelled out. -/
def spelled? (cell : String) : Option Bool :=
  if cell = "true" then some true else if cell = "false" then some false else none

theorem digit?_digit (b : Bool) : digit? (digit b) = some b := by
  cases b <;> decide

theorem spelled?_toString (b : Bool) : spelled? (toString b) = some b := by
  cases b <;> decide

theorem mapM_digit? (values : List Bool) : (values.map digit).mapM digit? = some values := by
  induction values with
  | nil => rfl
  | cons b rest ih => rw [List.map_cons, List.mapM_cons, digit?_digit, ih]; rfl

end Text

/-! ## Rows -/

namespace Row

/-- The cells of a printed row. -/
def cells (row : Row) : List String := row.inputs.map Text.digit ++ [toString row.result]

/-- The row that a line stands for: digits, and a result at the end. -/
def ofLine? (line : String) : Option Row :=
  match (Text.cells line).dropLast.mapM Text.digit?,
    (Text.cells line).getLast?.bind Text.spelled? with
  | some inputs, some result => some ⟨inputs, result⟩
  | _, _ => none

theorem display_eq_intercalate (row : Row) : row.display = " | ".intercalate row.cells := by
  obtain ⟨inputs, result⟩ := row
  unfold display cells
  induction inputs with
  | nil => simp
  | cons b rest ih =>
    have front : (if b then "1 | " else "0 | ") = Text.digit b ++ " | " := by
      cases b <;> decide
    have nonempty : rest.map Text.digit ++ [toString result] ≠ [] := List.concat_ne_nil _ _
    rw [List.map_cons, String.join_cons, List.map_cons, List.cons_append,
      String.intercalate_cons_of_ne_nil nonempty, ← ih, front, String.append_assoc]

theorem bar_not_mem_of_mem_cells {row : Row} {cell : String} (among : cell ∈ row.cells) :
    '|' ∉ cell.toList := by
  rcases List.mem_append.1 among with digit | result
  · obtain ⟨b, _, rfl⟩ := List.mem_map.1 digit
    cases b <;> decide
  · rw [List.mem_singleton.1 result]
    cases row.result <;> decide

/-- A printed row falls apart into its cells. -/
theorem cells_display (row : Row) : Text.cells row.display = row.cells := by
  rw [display_eq_intercalate]
  exact Text.cells_intercalate (List.concat_ne_nil _ _) fun cell => bar_not_mem_of_mem_cells

/-- A printed row is read back. -/
theorem ofLine?_display (row : Row) : ofLine? row.display = some row := by
  have front : row.cells.dropLast = row.inputs.map Text.digit := List.dropLast_concat
  have last : row.cells.getLast? = some (toString row.result) := List.getLast?_concat
  simp only [ofLine?, cells_display, front, last, Text.mapM_digit?, Option.bind_some,
    Text.spelled?_toString]

/-- Two rows are printed alike only if they are the same. -/
theorem display_injective {row other : Row} (same : row.display = other.display) : row = other := by
  have found := congrArg ofLine? same
  rw [ofLine?_display, ofLine?_display] at found
  exact Option.some.inj found

end Row

/-! ## Tables -/

/-- The lines are those of a table with these rows: a heading that falls apart into the names in
upper case, dashes as long, and a line for each row that falls apart into its digits and its
result. -/
structure Decodes (f : Formula) (rows : List Row) (lines : List String) : Prop where
  length_eq : lines.length = 2 + 2 ^ f.names.length
  /-- Behind the first two lines there are as many as there are rows. -/
  count : rows.length = 2 ^ f.names.length
  heading : ∃ header : String, lines[0]? = some header ∧
    Text.cells header = f.names.map Text.capitals ++ ["Result"] ∧
    lines[1]? = some (String.ofList (List.replicate header.length '-'))
  body : ∀ (i : Nat) (row : Row), rows[i]? = some row →
    ∃ line : String, lines[i + 2]? = some line ∧
      Text.cells line = row.inputs.map Text.digit ++ [toString row.result] ∧
      row.inputs.length = f.names.length ∧ Row.ofLine? line = some row

namespace Formula

variable {f g : Formula}

/-- The heading of a table of proper names falls apart into them. -/
theorem cells_header (named : f.Named) :
    Text.cells f.header = f.names.map Text.capitals ++ ["Result"] := by
  have letters : ∀ name ∈ f.names, ∀ c ∈ name.toList, c.isAlpha = true := fun name listed =>
    (Token.toList_of_isName (named name (mem_names.1 listed))).2
  have upper : f.names.map Text.uppercase = f.names.map Text.capitals :=
    List.map_congr_left fun name listed => Text.uppercase_of_letters (letters name listed)
  rw [header, upper]
  refine Text.cells_intercalate (List.concat_ne_nil _ _) (List.forall_mem_append.2 ⟨?_, ?_⟩)
  · exact List.forall_mem_map.2 fun name listed => Text.bar_not_mem_capitals (letters name listed)
  · exact List.forall_mem_singleton.2 (by decide)

/-- The lines of a narrow table of proper names. -/
theorem decodes_tableLines (named : f.Named) (narrow : f.names.length < 64) :
    Decodes f f.rows.toList f.tableLines where
  length_eq := length_tableLines narrow
  count := length_toList_rows narrow
  heading := ⟨f.header, rfl, cells_header named, rfl⟩
  body := by
    intro i row here
    refine ⟨row.display, ?_, row.cells_display, ?_, row.ofLine?_display⟩
    · rw [tableLines, List.getElem?_cons_succ, List.getElem?_cons_succ, List.getElem?_map, here]
      rfl
    · rw [inputs_of_getElem? narrow here, length_bits]

/-- The inputs of a narrow table are known beforehand, so its results tell its rows. -/
theorem toList_rows_eq_zipWith (narrow : f.names.length < 64) :
    f.rows.toList =
      List.zipWith Row.mk (allValues f.names.length) (f.rows.toList.map Row.result) := by
  rw [toList_rows narrow, List.map_map, List.zipWith_map_right, List.zipWith_self]
  rfl

theorem toList_rows_eq_iff (narrow : f.names.length < 64) (narrow' : g.names.length < 64) :
    f.rows.toList = g.rows.toList ↔ f.names.length = g.names.length ∧
      f.rows.toList.map Row.result = g.rows.toList.map Row.result := by
  constructor
  · intro same
    refine ⟨?_, by rw [same]⟩
    have count := congrArg List.length same
    rw [length_toList_rows narrow, length_toList_rows narrow'] at count
    exact Nat.pow_right_injective (Nat.le_refl 2) count
  · rintro ⟨columns, results⟩
    rw [toList_rows_eq_zipWith narrow, toList_rows_eq_zipWith narrow', columns, results]

/-- Below the dashes, the lines of two narrow tables are the same just when the rows are. -/
theorem drop_tableLines_eq_iff :
    f.tableLines.drop 2 = g.tableLines.drop 2 ↔ f.rows.toList = g.rows.toList :=
  List.map_inj_right fun _ _ => Row.display_injective

/-- A table of proper names that is not too wide can be read back from its text.  The text falls
apart into its lines and these into their cells, which give the names and, for each row, its
inputs and its result.  What is below the dashes is the same in two such tables just when there
are as many names in both and the results are the same in the same order. -/
theorem table_decodes (f : Formula) (named : f.Named) (narrow : f.names.length ≤ 63) :
    ∃ (lines : List String) (rows : List Row),
      Text.lines? f.table = some lines ∧ f.rows.Yields rows ∧ Decodes f rows lines ∧
      ∀ (g : Formula) (otherLines : List String) (others : List Row), g.Named →
        g.names.length ≤ 63 → Text.lines? g.table = some otherLines → g.rows.Yields others →
        (lines.drop 2 = otherLines.drop 2 ↔
          f.names.length = g.names.length ∧ rows.map Row.result = others.map Row.result) := by
  have fits : f.names.length < 64 := Nat.lt_succ_of_le narrow
  refine ⟨f.tableLines, f.rows.toList, Text.lines?_unlines_of_clean (clean_tableLines named),
    f.rows.yields_toList, decodes_tableLines named fits, ?_⟩
  intro g otherLines others named' narrow' split yields
  have lines := Text.lines?_unlines_of_clean (clean_tableLines named')
  obtain rfl := Option.some.inj (split.symm.trans lines)
  obtain rfl := yields.eq_toList
  exact drop_tableLines_eq_iff.trans (toList_rows_eq_iff fits (Nat.lt_succ_of_le narrow'))

/-- An implication and the disjunction that it comes to, with other names, differ in the heading
of their tables and nowhere below. -/
theorem table_decodes_imply :
    Named (binary .imply (.var "p") (.var "q")) ∧
      (binary .imply (.var "p") (.var "q")).names.length ≤ 63 ∧
      Named (binary .or (.not (.var "a")) (.var "b")) ∧
      (binary .or (.not (.var "a")) (.var "b")).names.length ≤ 63 ∧
      ∃ lines otherLines : List String,
        Text.lines? (binary .imply (.var "p") (.var "q")).table = some lines ∧
        Text.lines? (binary .or (.not (.var "a")) (.var "b")).table = some otherLines ∧
        lines ≠ otherLines ∧ lines.drop 2 = otherLines.drop 2 := by
  have named : Named (binary .imply (.var "p") (.var "q")) := by decide
  have narrow : (binary .imply (.var "p") (.var "q")).names.length ≤ 63 := by decide
  have named' : Named (binary .or (.not (.var "a")) (.var "b")) := by decide
  have narrow' : (binary .or (.not (.var "a")) (.var "b")).names.length ≤ 63 := by decide
  have columns : (binary .imply (.var "p") (.var "q")).names.length =
      (binary .or (.not (.var "a")) (.var "b")).names.length := by decide
  have results : (binary .imply (.var "p") (.var "q")).rows.toList.map Row.result =
      (binary .or (.not (.var "a")) (.var "b")).rows.toList.map Row.result := by decide
  obtain ⟨lines, rows, split, yields, decodes, same⟩ := table_decodes _ named narrow
  obtain ⟨otherLines, others, split', yields', decodes', _⟩ := table_decodes _ named' narrow'
  refine ⟨named, narrow, named', narrow', lines, otherLines, split, split', ?_, ?_⟩
  · rintro rfl
    obtain ⟨header, first, cells, _⟩ := decodes.heading
    obtain ⟨header', first', cells', _⟩ := decodes'.heading
    obtain rfl := Option.some.inj (first.symm.trans first')
    exact absurd (cells.symm.trans cells') (by decide)
  · rw [same _ otherLines others named' narrow' split' yields', yields.eq_toList, yields'.eq_toList]
    exact ⟨columns, results⟩

end Formula

end Propositional
