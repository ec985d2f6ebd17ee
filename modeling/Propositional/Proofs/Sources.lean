import Mathlib.Data.List.TakeWhile
import Propositional.CommandLine
import Propositional.Proofs.ByteOrder
import Propositional.Proofs.Lines
import Propositional.Proofs.Spacing

set_option autoImplicit false

/-!
# Where an expression comes from

An expression may be given as an argument, or as the first line of the input, with or without an
end to that line.  The end of a line is white space, so the words are the same each time, and a run
depends on nothing but the words.  What comes behind the first line is never looked at: it need not
even be text.  Of the reader of the arguments no more is asked than `ReadsArguments`.
-/

namespace Propositional

namespace Text

/-! ## Bytes of a line -/

/-- A character that takes more than one byte has none of ASCII among them. -/
theorem high_of_mem_encode {c : Char} (long : 127 < c.val.toNat) :
    ∀ b ∈ String.utf8EncodeChar c, 128 ≤ b.toNat := by
  unfold String.utf8EncodeChar
  dsimp only
  generalize c.val.toNat = n at long ⊢
  rw [if_neg (Nat.not_le.2 long)]
  split
  · simp only [List.mem_cons, List.not_mem_nil, or_false, forall_eq_or_imp, forall_eq,
      UInt8.toNat_ofNat']
    omega
  · split
    · simp only [List.mem_cons, List.not_mem_nil, or_false, forall_eq_or_imp, forall_eq,
        UInt8.toNat_ofNat']
      omega
    · simp only [List.mem_cons, List.not_mem_nil, or_false, forall_eq_or_imp, forall_eq,
        UInt8.toNat_ofNat']
      omega

/-- The byte of a line end stands for nothing else, and is no part of a longer code. -/
theorem eq_newline_of_mem_encode {c : Char} (member : 10 ∈ String.utf8EncodeChar c) : c = '\n' := by
  by_cases short : c.val.toNat ≤ 127
  · unfold String.utf8EncodeChar at member
    dsimp only at member
    rw [if_pos short, List.mem_singleton] at member
    have value : 10 = c.val.toNat % 256 := congrArg UInt8.toNat member
    have point : c.toNat = '\n'.toNat := by
      show c.val.toNat = 10
      omega
    exact Char.toNat_inj.1 point
  · have high := high_of_mem_encode (Nat.lt_of_not_le short) 10 member
    exact absurd high (by decide)

theorem newline_not_mem_bytes {s : String} (inside : '\n' ∉ s.toList) : 10 ∉ bytes s := by
  intro member
  rw [bytes_eq_flatMap] at member
  obtain ⟨c, among, code⟩ := List.mem_flatMap.1 member
  exact inside (eq_newline_of_mem_encode code ▸ among)

/-- A text is decoded from its bytes. -/
theorem fromUTF8?_bytes (s : String) : String.fromUTF8? ⟨(bytes s).toArray⟩ = some s := by
  have whole : (⟨(bytes s).toArray⟩ : ByteArray) = s.toByteArray := rfl
  rw [whole, String.fromUTF8?, dif_pos s.isValidUTF8]
  rfl

theorem bytes_append (s t : String) : bytes (s ++ t) = bytes s ++ bytes t := by
  rw [bytes_eq_flatMap, bytes_eq_flatMap, bytes_eq_flatMap, String.toList_append,
    List.flatMap_append]

end Text

namespace CommandLine

/-! ## The first line -/

section

variable {input : List UInt8}

/-- Without a line end, the whole input is its first line. -/
theorem firstLine_of_unended (inside : 10 ∉ input) : firstLine input = input := by
  have free := Text.bne_of_not_mem inside
  rw [firstLine, List.takeWhile_eq_self_iff.2 free, List.dropWhile_eq_nil_iff.2 free,
    List.take_nil, List.append_nil]

/-- The first line keeps its end, and nothing behind it. -/
theorem firstLine_append (inside : 10 ∉ input) (rest : List UInt8) :
    firstLine (input ++ 10 :: rest) = input ++ [10] := by
  rw [firstLine, Text.takeWhile_append_mark inside, Text.dropWhile_append_mark inside]
  rfl

end

/-! ## Runs -/

/-- The ways to call for a summary, or not to. -/
def summaryFlags : Bool → List (List String)
  | false => [[]]
  | true => [["-s"], ["--summary"]]

/-- The reader of the arguments knows the flags, and takes what is behind `--` for an expression
whatever it looks like. -/
structure ReadsArguments (parse : List String → Request) : Prop where
  /-- With nothing but flags, the expression is left to the input. -/
  flags {summary : Bool} {flags : List String} (given : flags ∈ summaryFlags summary) :
    parse flags = .tabulate ⟨none, summary⟩
  /-- Behind flags and `--`, an argument is the expression. -/
  operand {summary : Bool} {flags : List String} (given : flags ∈ summaryFlags summary)
    (expression : String) :
    parse (flags ++ ["--", expression]) = .tabulate ⟨some expression, summary⟩

theorem mem_summaryFlags_iff {summary : Bool} {flags : List String} :
    flags ∈ summaryFlags summary ↔
      (summary = false ∧ flags = []) ∨
        (summary = true ∧ (flags = ["-s"] ∨ flags = ["--summary"])) := by
  cases summary <;> simp [summaryFlags]

/-- The reader that the program is run with is one of these. -/
theorem readsArguments_ofArguments : ReadsArguments Request.ofArguments where
  flags given := by
    rcases mem_summaryFlags_iff.1 given with ⟨rfl, rfl⟩ | ⟨rfl, rfl | rfl⟩
    · rfl
    · decide
    · decide
  operand given expression := by
    rcases mem_summaryFlags_iff.1 given with ⟨rfl, rfl⟩ | ⟨rfl, rfl | rfl⟩
    · rfl
    · rfl
    · rfl

theorem printTable_of_words_eq {expression other : String}
    (same : Text.words other = Text.words expression) (summary : Bool) :
    printTable other summary = printTable expression summary := by
  rw [printTable, printTable, same]

section

variable {parse : List String → Request} {expression : String} {summary : Bool}
  {flags : List String}

theorem runWith_argument (reads : ReadsArguments parse) (given : flags ∈ summaryFlags summary)
    (input : List UInt8) :
    runWith parse (flags ++ ["--", expression]) input = printTable expression summary := by
  rw [runWith, reads.operand given]
  rfl

theorem runWith_input (reads : ReadsArguments parse) (given : flags ∈ summaryFlags summary)
    {input : List UInt8} (line : firstLine input = Text.bytes expression) :
    runWith parse flags input = printTable expression summary := by
  rw [runWith, reads.flags given]
  simp only [Request.run, Options.source?, line, Text.fromUTF8?_bytes]

/-- Whatever reads the arguments, if it knows the flags and `--`: an expression without a line end
in it gives the same exit, whether it is an argument, and whatever the input then is, or all of the
input, or the first line of it, and whatever bytes follow that line. -/
theorem run_of_any_source (reads : ReadsArguments parse) (inside : '\n' ∉ expression.toList)
    (given : flags ∈ summaryFlags summary) (input behind : List UInt8) :
    let exit := runWith parse (flags ++ ["--", expression]) input
    exit = printTable expression summary ∧
      runWith parse flags (Text.bytes expression) = exit ∧
      runWith parse flags (Text.bytes expression ++ 10 :: behind) = exit := by
  intro exit
  have argument : exit = printTable expression summary := runWith_argument reads given input
  have unended := Text.newline_not_mem_bytes inside
  refine ⟨argument, ?_, ?_⟩
  · rw [argument]
    exact runWith_input reads given (firstLine_of_unended unended)
  · have ended : Text.bytes expression ++ [10] = Text.bytes (expression ++ "\n") := by
      rw [Text.bytes_append]
      rfl
    have blank : Text.Blank "\n" := by decide
    rw [argument, ← printTable_of_words_eq (Text.words_append_blank blank expression)]
    exact runWith_input reads given ((firstLine_append unended behind).trans ended)

end

/-- A reader that knows one flag, by its letter or its word, and `--`, and nothing else. -/
def readFlag : List String → Request
  | [] => .tabulate ⟨none, false⟩
  | ["--", expression] => .tabulate ⟨some expression, false⟩
  | [flag] => if flag ∈ ["-s", "--summary"] then .tabulate ⟨none, true⟩ else .settled ⟨2, "", ""⟩
  | [flag, "--", expression] =>
    if flag ∈ ["-s", "--summary"] then .tabulate ⟨some expression, true⟩ else .settled ⟨2, "", ""⟩
  | _ => .settled ⟨2, "", ""⟩

theorem readsArguments_readFlag : ReadsArguments readFlag where
  flags given := by
    rcases mem_summaryFlags_iff.1 given with ⟨rfl, rfl⟩ | ⟨rfl, rfl | rfl⟩
    · rfl
    · rfl
    · rfl
  operand given expression := by
    rcases mem_summaryFlags_iff.1 given with ⟨rfl, rfl⟩ | ⟨rfl, rfl | rfl⟩
    · rfl
    · rfl
    · rfl

/-- Bytes that are no text do no harm behind the line, nor beside an argument. -/
theorem run_of_any_source_no_text :
    ReadsArguments readFlag ∧ '\n' ∉ "not p".toList ∧ ["-s"] ∈ summaryFlags true ∧
      runWith readFlag ["-s"] [110, 111, 116, 32, 112] =
        runWith readFlag ["-s", "--", "not p"] [255] ∧
      runWith readFlag ["-s"] [110, 111, 116, 32, 112, 10, 255, 10] =
        runWith readFlag ["-s", "--", "not p"] [255] := by
  have inside : '\n' ∉ "not p".toList := by decide
  have given : ["-s"] ∈ summaryFlags true := by decide
  obtain ⟨_, whole, line⟩ := run_of_any_source readsArguments_readFlag inside given [255] [255, 10]
  exact ⟨readsArguments_readFlag, inside, given, whole, line⟩

end CommandLine

end Propositional
