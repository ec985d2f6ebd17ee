import Propositional.CommandLine.Basic
import Propositional.Proofs.Naming
import Propositional.Proofs.Printing
import Propositional.Proofs.Stretches
import Propositional.Proofs.Verdicts

set_option autoImplicit false

/-!
# Output

What a run prints can be told line by line.  A run that finds no expression prints the words
and, apart from them, the fault.  One that finds an expression of at most 63 names prints its
report, a line for each row of the table at the end of it, and on demand one more line, whose
verdict can be read off the lines of the rows.
-/

namespace Propositional

/-! ## The line of a fault -/

/-- A fault is one of the words, or none. -/
theorem Parse.mem_of_word? {words : List String} {error : SyntaxError}
    (failed : (ofWords words).outcome = .error error) {word : String}
    (atWord : error.word? = some word) : word ∈ words := by
  have rejected := Scan.run_of_error failed
  rw [atWord] at rejected
  obtain ⟨front, rest, _, rfl, _⟩ := Scan.exists_leads_of_rejected rejected
  exact List.mem_append_right front List.mem_cons_self

/-- Words hold no line end, so a reason does not either. -/
theorem Parse.newline_not_mem_reason {text : String} {error : SyntaxError}
    (failed : (ofWords (Text.words text)).outcome = .error error) :
    '\n' ∉ error.reason.toList := by
  cases error with
  | unexpectedToken word =>
    have among : word ∈ Text.words text := mem_of_word? failed rfl
    have parts : (SyntaxError.unexpectedToken word).reason.toList =
        "unexpected token: ".toList ++ word.toList := String.toList_append
    intro member
    rw [parts, List.mem_append] at member
    rcases member with cause | inside
    · exact absurd cause (by decide)
    · have blank := Text.isBlank_of_mem_words among '\n' inside
      exact absurd blank (by decide)
  | unexpectedEnd => decide
  | unclosedParenthesis found =>
    show '\n' ∉ "expected closing parenthesis".toList
    decide

/-! ## Verdicts on printed rows -/

namespace Verdict

/-- Every one of the lines has that ending. -/
def allEndIn (ending : String) (lines : List String) : Bool :=
  lines.all fun line => ending.toList.isSuffixOf line.toList

/-- The verdict on a table of which only the printed rows are seen, by how they end. -/
def ofRowLines (rowLines : List String) : Verdict :=
  if allEndIn "true" rowLines then .tautology
  else if allEndIn "false" rowLines then .contradiction
  else .contingent

/-- What a table is to be called of which only the printed rows are seen. -/
def wordOfRowLines (rowLines : List String) : String :=
  if allEndIn "true" rowLines then "tautology"
  else if allEndIn "false" rowLines then "contradiction"
  else "contingent"

/-- The verdicts are named by those words. -/
theorem name_ofRowLines (rowLines : List String) :
    (ofRowLines rowLines).name = wordOfRowLines rowLines := by
  unfold ofRowLines wordOfRowLines
  split
  · rfl
  · split
    · rfl
    · rfl

/-- A row ends in its result, and the two results do not end alike. -/
theorem isSuffixOf_display_iff (row : Row) (b : Bool) :
    (toString b).toList.isSuffixOf row.display.toList = true ↔ row.result = b := by
  have ends : (toString row.result).toList <:+ row.display.toList := by
    rw [Row.display, String.toList_append]
    exact List.suffix_append _ _
  rw [List.isSuffixOf_iff_suffix]
  constructor
  · intro other
    have apart : ∀ c d : Bool, (toString c).toList <:+ (toString d).toList → c = d := by decide
    rcases List.suffix_or_suffix_of_suffix ends other with within | within
    · exact apart _ _ within
    · exact (apart _ _ within).symm
  · rintro rfl
    exact ends

/-- What is read off the printed rows fits their results. -/
theorem ofRowLines_fits (rows : List Row) :
    (ofRowLines (rows.map Row.display)).Fits (rows.map Row.result) := by
  have same : ∀ b : Bool, allEndIn (toString b) (rows.map Row.display) = true ↔
      ∀ c ∈ rows.map Row.result, c = b := by
    intro b
    rw [allEndIn, List.all_map, List.all_eq_true, List.forall_mem_map]
    exact forall₂_congr fun row _ => isSuffixOf_display_iff row b
  have differ : ∀ b : Bool, (¬ ∀ c ∈ rows.map Row.result, c = b) → (!b) ∈ rows.map Row.result := by
    intro b differs
    by_contra missing
    exact differs fun c member => Bool.ne_not.1 (ne_of_mem_of_not_mem member missing)
  unfold ofRowLines
  split
  · rename_i endTrue
    exact (same true).1 endTrue
  · rename_i notTrue
    split
    · rename_i endFalse
      exact (same false).1 endFalse
    · rename_i notFalse
      exact ⟨differ false (mt (same false).2 notFalse), differ true (mt (same true).2 notTrue)⟩

end Verdict

/-- What the verdict of a formula is called can be read off its rows as they are printed. -/
theorem Formula.name_verdict (f : Formula) :
    f.verdict.name = Verdict.wordOfRowLines (f.rows.toList.map Row.display) := by
  have verdict : f.verdict = .ofRowLines (f.rows.toList.map Row.display) :=
    verdict_eq_iff_fits.2 (Verdict.ofRowLines_fits f.rows.toList)
  rw [verdict, Verdict.name_ofRowLines]

namespace CommandLine

/-! ## The output of a run -/

/-- The lines of the report on an expression: its words, the formula, its names, the heading of
the table with the dashes below it, and the rows. -/
def reportLines (tokens : List String) (f : Formula) : List String :=
  ("Tokens: " ++ Text.quotedList tokens) :: ("Parsed: " ++ f.structural) ::
    ("Variables: " ++ Text.quotedList f.names) :: f.header ::
    String.ofList (List.replicate f.header.length '-') :: f.rows.toList.map Row.display

/-- The line that is added on demand. -/
def summaryText (f : Formula) : String := "Expression " ++ f.display ++ " is a " ++ f.verdict.name

section

variable {tokens : List String} {f : Formula} {error : SyntaxError} {summary : Bool}
  {expression : String}

theorem reportLines_eq : reportLines tokens f =
    ("Tokens: " ++ Text.quotedList tokens) :: ("Parsed: " ++ f.structural) ::
      ("Variables: " ++ Text.quotedList f.names) :: f.tableLines := rfl

/-- Behind the dashes, a report consists of the rows. -/
theorem drop_reportLines : (reportLines tokens f).drop 5 = f.rows.toList.map Row.display := rfl

theorem length_reportLines (narrow : f.names.length < 64) :
    (reportLines tokens f).length = 5 + 2 ^ f.names.length := by
  have table := Formula.length_tableLines narrow
  rw [reportLines_eq, List.length_cons, List.length_cons, List.length_cons, table]
  omega

theorem clean_tokens (tokens : List String) :
    Text.Clean ("Tokens: " ++ Text.quotedList tokens) := by
  have label : Text.Clean "Tokens: " := by decide
  exact Text.clean_append.2 ⟨label, Text.clean_quotedList tokens⟩

theorem clean_reportLines (named : f.Named) :
    ∀ line ∈ reportLines tokens f, Text.Clean line := by
  have parsed : Text.Clean "Parsed: " := by decide
  have names : Text.Clean "Variables: " := by decide
  rw [reportLines_eq]
  refine List.forall_mem_cons.2 ⟨clean_tokens tokens, ?_⟩
  refine List.forall_mem_cons.2 ⟨Text.clean_append.2 ⟨parsed, f.clean_structural⟩, ?_⟩
  refine List.forall_mem_cons.2 ⟨Text.clean_append.2 ⟨names, ?_⟩, ?_⟩
  · exact Text.clean_quotedList f.names
  · exact Formula.clean_tableLines named

theorem clean_summaryText (named : f.Named) : Text.Clean (summaryText f) := by
  have words : Text.Clean "Expression " ∧ Text.Clean " is a " := by decide
  have verdict : Text.Clean f.verdict.name := by cases f.verdict <;> decide
  simp [summaryText, words, verdict, Formula.clean_display named]

theorem line_eq_unlines (s : String) : line s = Text.unlines [s] := by
  rw [Text.unlines_cons, Text.unlines_nil, String.append_empty]
  rfl

theorem tokensLine_append_report :
    tokensLine tokens ++ report f = Text.unlines (reportLines tokens f) := by
  simp only [reportLines_eq, Text.unlines_cons, String.append_assoc]
  simp only [tokensLine, report, line, String.append_assoc]
  rfl

/-- Where no expression is found, there is a line on either output. -/
theorem printTable_of_error
    (failed : (Parse.ofWords (Text.words expression)).outcome = .error error) :
    printTable expression summary = ⟨1,
      Text.unlines ["Tokens: " ++ Text.quotedList (Text.words expression)],
      Text.unlines ["Parse error: " ++ error.reason]⟩ := by
  rw [← line_eq_unlines, ← line_eq_unlines]
  simp only [printTable, failed]
  rfl

/-- Where one is found, there is the report, and the summary behind it. -/
theorem printTable_of_ok (read : (Parse.ofWords (Text.words expression)).outcome = .ok f) :
    printTable expression summary = ⟨0,
      Text.unlines (reportLines (Text.words expression) f) ++
        (if summary then line (summaryText f) else ""), ""⟩ := by
  simp only [printTable, read, tokensLine_append_report]
  rfl

theorem out_printTable_of_ok (read : (Parse.ofWords (Text.words expression)).outcome = .ok f) :
    (printTable expression summary).out =
      Text.unlines (reportLines (Text.words expression) f) ++
        if summary then line (summaryText f) else "" :=
  congrArg Exit.out (printTable_of_ok read)

theorem code_printTable_eq_zero_iff : (printTable expression summary).code = 0 ↔
    ∃ f, (Parse.ofWords (Text.words expression)).outcome = .ok f := by
  cases outcome : (Parse.ofWords (Text.words expression)).outcome with
  | ok f => simp [printTable_of_ok outcome]
  | error error => simp [printTable_of_error outcome]

/-- The words are all that is printed before a fault, and the fault is on the other output. -/
theorem lines?_printTable_of_error
    (failed : (Parse.ofWords (Text.words expression)).outcome = .error error) :
    Text.lines? (printTable expression summary).out =
        some ["Tokens: " ++ Text.quotedList (Text.words expression)] ∧
      Text.lines? (printTable expression summary).err = some ["Parse error: " ++ error.reason] := by
  have label : '\n' ∉ "Parse error: ".toList := by decide
  have fault : '\n' ∉ ("Parse error: " ++ error.reason).toList := by
    rw [String.toList_append, List.mem_append]
    exact not_or.2 ⟨label, Parse.newline_not_mem_reason failed⟩
  rw [printTable_of_error failed]
  exact ⟨Text.lines?_unlines_of_clean (List.forall_mem_singleton.2 (clean_tokens _)),
    Text.lines?_unlines (List.forall_mem_singleton.2 fault)⟩

/-- The report falls into its lines, and the summary is a line behind them. -/
theorem lines?_printTable_of_ok
    (read : (Parse.ofWords (Text.words expression)).outcome = .ok f) :
    Text.lines? (printTable expression summary).out =
      some (reportLines (Text.words expression) f ++ if summary then [summaryText f] else []) := by
  have named := Parse.named_of_ok read
  have report : ∀ line ∈ reportLines (Text.words expression) f, Text.Clean line :=
    clean_reportLines named
  rw [out_printTable_of_ok read]
  cases summary with
  | false =>
    rw [if_neg Bool.false_ne_true, if_neg Bool.false_ne_true, String.append_empty, List.append_nil]
    exact Text.lines?_unlines_of_clean report
  | true =>
    rw [if_pos rfl, if_pos rfl, line_eq_unlines, ← Text.unlines_append]
    exact Text.lines?_unlines_of_clean
      (List.forall_mem_append.2 ⟨report, List.forall_mem_singleton.2 (clean_summaryText named)⟩)

end

theorem run_tabulate {o : Options} {input : List UInt8} {expression : String}
    (source : o.source? input = some expression) :
    (Request.tabulate o).run input = printTable expression o.summary := by
  simp only [Request.run, source]

/-- A run on an expression, wherever it was found and whatever characters are in it, is a success
just when reading is.  A fault is all there is besides the words.  Otherwise the report and its
rows are the lines of the output; with a summary there is one line more, at the end, which says
what the printed rows have in common. -/
theorem run_tabulate_lines {o : Options} {input : List UInt8} {expression : String}
    (source : o.source? input = some expression) :
    let tokens := Text.words expression
    let exit := (Request.tabulate o).run input
    let plain := (Request.tabulate { o with summary := false }).run input
    (exit.code = 0 ↔ ∃ f, (Parse.ofWords tokens).outcome = .ok f) ∧
    (∀ error, (Parse.ofWords tokens).outcome = .error error →
      Text.lines? exit.out = some ["Tokens: " ++ Text.quotedList tokens] ∧
      Text.lines? exit.err = some ["Parse error: " ++ error.reason]) ∧
    ∀ f, (Parse.ofWords tokens).outcome = .ok f → f.names.length ≤ 63 →
      let last := "Expression " ++ f.display ++ " is a " ++
        Verdict.wordOfRowLines ((reportLines tokens f).drop 5)
      (reportLines tokens f).length = 5 + 2 ^ f.names.length ∧
      Text.lines? plain.out = some (reportLines tokens f) ∧
      Text.lines? exit.out = some (reportLines tokens f ++ if o.summary then [last] else []) ∧
      exit.out = plain.out ++ (if o.summary then line last else "") := by
  intro tokens exit plain
  have run : exit = printTable expression o.summary := run_tabulate source
  have runPlain : plain = printTable expression false := run_tabulate source
  rw [run, runPlain]
  refine ⟨code_printTable_eq_zero_iff, fun error failed => lines?_printTable_of_error failed, ?_⟩
  intro f read narrow last
  have summary : last = summaryText f := by
    rw [summaryText, f.name_verdict]
    rfl
  rw [summary]
  refine ⟨length_reportLines (Nat.lt_succ_of_le narrow), ?_, lines?_printTable_of_ok read, ?_⟩
  · rw [lines?_printTable_of_ok read]
    exact congrArg some (List.append_nil _)
  · rw [out_printTable_of_ok read, out_printTable_of_ok read]
    exact congrArg (· ++ _) String.append_empty.symm

/-- For an implication there are three lines besides the table, and the last one calls it
contingent. -/
theorem run_tabulate_lines_imply :
    (Options.mk (some "p imply q") true).source? [] = some "p imply q" ∧
      (Formula.binary .imply (.var "p") (.var "q")).names.length ≤ 63 ∧
      ((Request.tabulate ⟨some "p imply q", true⟩).run []).code = 0 ∧
      (Text.lines? ((Request.tabulate ⟨some "p imply q", true⟩).run []).out).map List.length =
        some (5 + 2 ^ 2 + 1) ∧
      ((Request.tabulate ⟨some "p imply q", true⟩).run []).out =
        ((Request.tabulate ⟨some "p imply q", false⟩).run []).out ++
          line "Expression (p → q) is a contingent" := by
  have source : (Options.mk (some "p imply q") true).source? [] = some "p imply q" := rfl
  have narrow : (Formula.binary .imply (.var "p") (.var "q")).names.length ≤ 63 := by decide
  have words : Text.words "p imply q" = ["p", "imply", "q"] := by decide
  have tokens : tokensOf ["p", "imply", "q"] = [.name "p", .connective .imply, .name "q"] := by
    decide
  have derives : Derives .expression (tokensOf (Text.words "p imply q"))
      (.binary .imply (.var "p") (.var "q")) := by
    rw [words, tokens]
    exact Derives.join_factors .imply (.name "p") (.name "q")
  have read := (Parse.readsWhole_iff_derives.2 derives).1
  have verdict : "Expression " ++ (Formula.binary .imply (.var "p") (.var "q")).display ++ " is a " ++
      Verdict.wordOfRowLines ((Formula.binary .imply (.var "p") (.var "q")).rows.toList.map
        Row.display) = "Expression (p → q) is a contingent" := by
    decide
  obtain ⟨success, _, report⟩ := run_tabulate_lines source
  obtain ⟨length, _, lines, out⟩ := report _ read narrow
  rw [drop_reportLines, verdict] at lines out
  refine ⟨source, narrow, success.2 ⟨_, read⟩, ?_, out⟩
  rw [lines, Option.map_some, List.length_append, length]
  rfl

end CommandLine

end Propositional
