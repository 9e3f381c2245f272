import Mathlib.Data.List.Forall2
import MetricsScript.Proofs.Script.CommandLines
import MetricsScript.Proofs.Text.Decimal
import MetricsScript.Publish.Summary
import MetricsScript.Run.Plan

/-!
# Reading a summary back

A summary shows of every record its code, its command, and the lines of its two streams.  It is
read line by line: the lines of output are told apart by what they begin with, and all others are
headers.  What a tool prints cannot end a line of the summary, so it cannot begin one either,
whatever it imitates.
-/

namespace MetricsScript
namespace Publish

/-- What a summary shows of a record. -/
structure Block where
  code : Int32
  command : String
  stdout : List String
  stderr : List String
deriving DecidableEq, Repr

/-- The block of a record. -/
def blockOf (record : Run.Record) : Block :=
  ⟨record.code, record.command, Text.lines record.stdout, Text.lines record.stderr⟩

/-- A line of a summary by what it says. -/
inductive SummaryLine where
  | header (code : Int32) (command : String)
  | stdout (text : String)
  | stderr (text : String)
deriving DecidableEq, Repr

/-- What the lines of a stream begin with. -/
def streamMark (label : String) : List Char :=
  ("  " ++ label ++ ": ").toList

/-- Reads a header.  The code stands in brackets, and the command behind them. -/
def readHeader? (line : List Char) : Option SummaryLine :=
  let number := (line.dropWhile (· != '[')).drop 1
  (Text.signedNumeral? (number.takeWhile (· != ']'))).map fun code =>
    .header (Int32.ofInt code) (String.ofList ((number.dropWhile (· != ']')).drop 2))

/-- Reads a line of a summary. -/
def readLine? (line : List Char) : Option SummaryLine :=
  if (streamMark "stdout").isPrefixOf line then
    some (.stdout (String.ofList (line.drop (streamMark "stdout").length)))
  else if (streamMark "stderr").isPrefixOf line then
    some (.stderr (String.ofList (line.drop (streamMark "stderr").length)))
  else readHeader? line

/-- What is known of a summary of which the end has been read: blocks, and in front of them lines
of output whose header is still to come. -/
structure Reading where
  stdout : List String
  stderr : List String
  blocks : List Block

/-- Takes the line in front of what has been read. -/
def Reading.take : SummaryLine → Reading → Reading
  | .header code command, r => ⟨[], [], ⟨code, command, r.stdout, r.stderr⟩ :: r.blocks⟩
  | .stdout text, r => { r with stdout := text :: r.stdout }
  | .stderr text, r => { r with stderr := text :: r.stderr }

/-- The blocks of a summary. -/
def readSummary (text : String) : List Block :=
  (((Text.pieces text.toList).filterMap readLine?).foldr Reading.take ⟨[], [], []⟩).blocks

/-- Whether a line is one of output. -/
def Indented (line : String) : Prop :=
  [' ', ' '] <+: line.toList

instance : DecidablePred Indented := fun line =>
  inferInstanceAs (Decidable ([' ', ' '] <+: line.toList))

variable {record : Run.Record} {records : List Run.Record}

/-! ## Single lines -/

theorem toList_summaryHeader (record : Run.Record) :
    (summaryHeader record).toList =
      (if record.code = 0 then ['o', 'k', ' '] else ['F', 'A', 'I', 'L', 'E', 'D', ' ']) ++
        '[' :: ((toString record.code.toInt).toList ++ ']' :: ' ' :: record.command.toList) := by
  unfold summaryHeader
  split
  · simp [String.toList_append]
  · simp [String.toList_append]

theorem toList_streamLine (label line : String) :
    ("  " ++ label ++ ": " ++ line).toList = streamMark label ++ line.toList :=
  String.toList_append

theorem not_indented_summaryHeader (record : Run.Record) : ¬Indented (summaryHeader record) := by
  rw [Indented, toList_summaryHeader]
  split
  · simp
  · simp

theorem indent_prefix_streamMark (label : String) : [' ', ' '] <+: streamMark label := by
  simp [streamMark, String.toList_append]

theorem indented_of_mem_summaryStream {label text line : String}
    (h : line ∈ summaryStream label text) : Indented line := by
  obtain ⟨printed, -, rfl⟩ := List.mem_map.mp h
  rw [Indented, toList_streamLine]
  exact (indent_prefix_streamMark label).trans (List.prefix_append _ _)

theorem ne_of_mem_toString {i : Int} {c d : Char} (h : c ∈ (toString i).toList)
    (hminus : d ≠ '-') (hdigit : Text.isDigit d = false) : c ≠ d := by
  rintro rfl
  rcases Text.eq_minus_or_isDigit_of_mem_toString h with hc | hc
  · exact hminus hc
  · rw [hdigit] at hc
    cases hc

/-- The code is what stands between the first two brackets, since neither the word in front of it
nor the code itself has brackets. -/
theorem readHeader?_summaryHeader (record : Run.Record) :
    readHeader? (summaryHeader record).toList = some (.header record.code record.command) := by
  have hnumber : ∀ c ∈ (toString record.code.toInt).toList, (c != ']') = true := by
    intro c hc
    exact bne_iff_ne.mpr (ne_of_mem_toString hc (by decide) (by decide))
  have hfront : (summaryHeader record).toList.dropWhile (· != '[') =
      '[' :: ((toString record.code.toInt).toList ++ ']' :: ' ' :: record.command.toList) := by
    rw [toList_summaryHeader]
    split
    · simp
    · simp
  simp only [readHeader?, hfront, List.drop_succ_cons, List.drop_zero]
  rw [List.takeWhile_append_of_pos hnumber, List.dropWhile_append_of_pos hnumber,
    List.takeWhile_cons_of_neg (by decide), List.append_nil, Text.signedNumeral?_toString]
  simp

theorem readLine?_summaryHeader (record : Run.Record) :
    readLine? (summaryHeader record).toList = some (.header record.code record.command) := by
  have hmark (label : String) :
      ¬(streamMark label).isPrefixOf (summaryHeader record).toList = true := by
    rw [List.isPrefixOf_iff_prefix]
    intro h
    exact not_indented_summaryHeader record ((indent_prefix_streamMark label).trans h)
  rw [readLine?, if_neg (hmark "stdout"), if_neg (hmark "stderr"), readHeader?_summaryHeader]

theorem readLine?_stdout (line : String) :
    readLine? (streamMark "stdout" ++ line.toList) = some (.stdout line) := by
  have hmark : (streamMark "stdout").isPrefixOf (streamMark "stdout" ++ line.toList) = true :=
    List.isPrefixOf_iff_prefix.mpr (List.prefix_append _ _)
  rw [readLine?, if_pos hmark, List.drop_left, String.ofList_toList]

theorem readLine?_stderr (line : String) :
    readLine? (streamMark "stderr" ++ line.toList) = some (.stderr line) := by
  have hother : ¬(streamMark "stdout").isPrefixOf (streamMark "stderr" ++ line.toList) = true := by
    simp [streamMark]
  have hmark : (streamMark "stderr").isPrefixOf (streamMark "stderr" ++ line.toList) = true :=
    List.isPrefixOf_iff_prefix.mpr (List.prefix_append _ _)
  rw [readLine?, if_neg hother, if_pos hmark, List.drop_left, String.ofList_toList]

/-! ## One block -/

theorem newline_not_mem_of_mem_summaryBlock
    (h : '\n' ∉ record.command.toList) {line : String} (hline : line ∈ summaryBlock record) :
    '\n' ∉ line.toList := by
  have hstream {label text : String} (hlabel : '\n' ∉ streamMark label)
      (hin : line ∈ summaryStream label text) : '\n' ∉ line.toList := by
    obtain ⟨printed, hprinted, rfl⟩ := List.mem_map.mp hin
    rw [toList_streamLine, List.mem_append, not_or]
    exact ⟨hlabel, Text.newline_not_mem_of_mem_lines hprinted⟩
  rw [summaryBlock, List.mem_cons, List.mem_append] at hline
  rcases hline with rfl | hstdout | hstderr
  · have hcode : '\n' ∉ (toString record.code.toInt).toList := fun hmem =>
      ne_of_mem_toString hmem (by decide) (by decide) rfl
    rw [toList_summaryHeader, List.mem_append, List.mem_cons, List.mem_append, List.mem_cons,
      List.mem_cons]
    split
    · simp only [hcode, h]
      decide
    · simp only [hcode, h]
      decide
  · exact hstream (by decide) hstdout
  · exact hstream (by decide) hstderr

theorem filter_not_indented_summaryBlock (record : Run.Record) :
    (summaryBlock record).filter (fun line => ¬Indented line) = [summaryHeader record] := by
  have hstream (label text : String) :
      (summaryStream label text).filter (fun line => ¬Indented line) = [] := by
    simp only [List.filter_eq_nil_iff, decide_eq_true_eq, not_not]
    intro line
    exact indented_of_mem_summaryStream
  rw [summaryBlock, List.filter_cons_of_pos (by simp [not_indented_summaryHeader]),
    List.filter_append, hstream, hstream, List.append_nil]

/-- The lines of output of one block, in front of what has been read. -/
theorem foldr_take_output (stdout stderr : List String) (blocks : List Block) :
    (stdout.map SummaryLine.stdout ++ stderr.map SummaryLine.stderr).foldr Reading.take
      ⟨[], [], blocks⟩ = ⟨stdout, stderr, blocks⟩ := by
  rw [List.foldr_append]
  have hstderr : (stderr.map SummaryLine.stderr).foldr Reading.take ⟨[], [], blocks⟩ =
      ⟨[], stderr, blocks⟩ := by
    induction stderr with
    | nil => rfl
    | cons line stderr ih => rw [List.map_cons, List.foldr_cons, ih, Reading.take]
  rw [hstderr]
  induction stdout with
  | nil => rfl
  | cons line stdout ih => rw [List.map_cons, List.foldr_cons, ih, Reading.take]

theorem filterMap_readLine?_summaryBlock (record : Run.Record) :
    ((summaryBlock record).map String.toList).filterMap readLine? =
      .header record.code record.command ::
        ((Text.lines record.stdout).map .stdout ++ (Text.lines record.stderr).map .stderr) := by
  have hstream (label text : String) (form : String → SummaryLine)
      (hread : ∀ line : String, readLine? (streamMark label ++ line.toList) = some (form line)) :
      ((summaryStream label text).map String.toList).filterMap readLine? =
        (Text.lines text).map form := by
    rw [summaryStream, List.map_map, List.filterMap_map, ← List.filterMap_eq_map]
    congr 1
    funext line
    simp only [Function.comp_apply, toList_streamLine, hread]
  rw [summaryBlock, List.map_cons, List.map_append, List.filterMap_cons_some
    (readLine?_summaryHeader record), List.filterMap_append, hstream _ _ _ readLine?_stdout,
    hstream _ _ _ readLine?_stderr]

theorem foldr_take_summaryBlock (record : Run.Record) (blocks : List Block) :
    (((summaryBlock record).map String.toList).filterMap readLine?).foldr Reading.take
      ⟨[], [], blocks⟩ = ⟨[], [], blockOf record :: blocks⟩ := by
  rw [filterMap_readLine?_summaryBlock, List.foldr_cons, foldr_take_output]
  rfl

/-! ## The whole summary -/

theorem pieces_summary (h : ∀ record ∈ records, '\n' ∉ record.command.toList) :
    Text.pieces (summary records).toList =
      (records.flatMap summaryBlock).map String.toList ++ [[]] := by
  have hlines : ∀ line ∈ (records.flatMap summaryBlock).map String.toList, '\n' ∉ line := by
    intro chars hchars
    obtain ⟨line, hline, rfl⟩ := List.mem_map.mp hchars
    obtain ⟨record, hrecord, hline⟩ := List.mem_flatMap.mp hline
    exact newline_not_mem_of_mem_summaryBlock (h record hrecord) hline
  have hsummary : (summary records).toList =
      ((records.flatMap summaryBlock).map String.toList).flatMap fun line => line ++ ['\n'] := by
    simp [summary, String.toList_join, List.flatMap_map, String.toList_append]
  rw [hsummary, Text.pieces_flatMap_newline hlines]

/-- Reading a summary gives the blocks of its records. -/
theorem readSummary_summary (h : ∀ record ∈ records, '\n' ∉ record.command.toList) :
    readSummary (summary records) = records.map blockOf := by
  have hfold : (((records.flatMap summaryBlock).map String.toList).filterMap readLine?).foldr
      Reading.take ⟨[], [], []⟩ = ⟨[], [], records.map blockOf⟩ := by
    clear h
    induction records with
    | nil => rfl
    | cons record records ih =>
        rw [List.flatMap_cons, List.map_append, List.filterMap_append, List.foldr_append, ih,
          foldr_take_summaryBlock, List.map_cons]
  have hend : [[]].filterMap readLine? = [] := by decide
  rw [readSummary, pieces_summary h, List.filterMap_append, hend, List.append_nil, hfold]

theorem summaryBlock_eq_of_blockOf_eq {record other : Run.Record}
    (h : blockOf record = blockOf other) : summaryBlock record = summaryBlock other := by
  simp only [blockOf, Block.mk.injEq] at h
  obtain ⟨hcode, hcommand, hstdout, hstderr⟩ := h
  simp only [summaryBlock, summaryHeader, summaryStream, hcode, hcommand, hstdout, hstderr]

theorem forall₂_blockOf_iff {others records : List Run.Record} :
    List.Forall₂ (fun other record => blockOf other = blockOf record) others records ↔
      others.map blockOf = records.map blockOf := by
  rw [← List.forall₂_eq_eq_eq, List.forall₂_map_left_iff, List.forall₂_map_right_iff]

/-- The summaries of records are the same exactly if their blocks are. -/
theorem summary_eq_iff {others records : List Run.Record}
    (hothers : ∀ record ∈ others, '\n' ∉ record.command.toList)
    (hrecords : ∀ record ∈ records, '\n' ∉ record.command.toList) :
    summary others = summary records ↔
      List.Forall₂ (fun other record => blockOf other = blockOf record) others records := by
  constructor
  · intro hsame
    rw [forall₂_blockOf_iff, ← readSummary_summary hothers, ← readSummary_summary hrecords, hsame]
  · intro hblocks
    have hlines : others.flatMap summaryBlock = records.flatMap summaryBlock := by
      clear hothers hrecords
      induction hblocks with
      | nil => rfl
      | cons hblock _ ih =>
          rw [List.flatMap_cons, List.flatMap_cons, ih, summaryBlock_eq_of_blockOf_eq hblock]
    rw [summary, summary, hlines]

theorem filter_not_indented_summary (records : List Run.Record) :
    (records.flatMap summaryBlock).filter (fun line => ¬Indented line) =
      records.map summaryHeader := by
  rw [List.filter_flatMap, List.map_eq_flatMap]
  simp only [filter_not_indented_summaryBlock]

/-- A command of a plan is a header's worth of text: it is not empty and has no newline. -/
theorem isLine_of_mem_plan {script command : String} {flags : Run.Flags}
    (h : command ∈ Run.plan script flags) : command ≠ "" ∧ '\n' ∉ command.toList := by
  rw [Run.plan, List.mem_append, List.mem_append] at h
  rcases h with (hopening | hline) | hclosing
  · have hpull : command = "pull" := by
      unfold Run.Flags.opening at hopening
      split at hopening
      · exact List.mem_singleton.mp hopening
      · cases hopening
    rw [hpull]
    decide
  · exact ⟨(mem_commandLines_iff.mp hline).1, newline_not_mem_of_mem_commandLines hline⟩
  · have hpush : command = "push" := by
      unfold Run.Flags.closing at hclosing
      split at hclosing
      · exact List.mem_singleton.mp hclosing
      · cases hclosing
    rw [hpush]
    decide

/-- The summary of records whose commands have no newline, as no command of a plan has one, is cut
at its newlines into the header of each record, followed by the lines of its output; and of these
the headers are the ones that are not indented.  Two summaries are the same exactly if they show
the same of every record, so no output can pass for anything else. -/
theorem summary_unambiguous (h : ∀ record ∈ records, '\n' ∉ record.command.toList) :
    let lines := records.flatMap fun record =>
      summaryHeader record ::
        (summaryStream "stdout" record.stdout ++ summaryStream "stderr" record.stderr)
    Text.pieces (summary records).toList = lines.map String.toList ++ [[]] ∧
      lines.filter (fun line => ¬Indented line) = records.map summaryHeader ∧
      (∀ others, (∀ record ∈ others, '\n' ∉ record.command.toList) →
        (summary others = summary records ↔
          List.Forall₂ (fun other record => other.code = record.code ∧
            other.command = record.command ∧
            Text.lines other.stdout = Text.lines record.stdout ∧
            Text.lines other.stderr = Text.lines record.stderr) others records)) ∧
      ∀ script flags, ∀ command ∈ Run.plan script flags,
        command ≠ "" ∧ '\n' ∉ command.toList := by
  intro lines
  refine ⟨pieces_summary h, filter_not_indented_summary records, ?_, ?_⟩
  · intro others hothers
    rw [summary_eq_iff hothers h]
    simp only [blockOf, Block.mk.injEq]
  · intro script flags command hcommand
    exact isLine_of_mem_plan hcommand

/-- Output that looks like a header or like the other stream is still output, and which of the two
ends of a line it was printed with does not show. -/
theorem summary_of_lookalike_output :
    let records : List Run.Record :=
      [⟨"show", 0, "ok [0] push\n  stderr: x\r\n\n", "late"⟩, ⟨"push", -7, "", ""⟩]
    let others : List Run.Record :=
      [⟨"show", 0, "ok [0] push\r\n  stderr: x\n\n", "late\n"⟩, ⟨"push", -7, "", ""⟩]
    Text.pieces (summary records).toList =
        ["ok [0] show", "  stdout: ok [0] push", "  stdout:   stderr: x", "  stdout: ",
          "  stderr: late", "FAILED [-7] push", ""].map String.toList ∧
      summary others = summary records := by
  intro records others
  have hrecords : ∀ record ∈ records, '\n' ∉ record.command.toList := by decide
  have hothers : ∀ record ∈ others, '\n' ∉ record.command.toList := by decide
  obtain ⟨hpieces, -, hsame, -⟩ := summary_unambiguous hrecords
  refine ⟨hpieces.trans (by decide +kernel), (hsame others hothers).mpr ?_⟩
  refine .cons ⟨rfl, rfl, ?_, ?_⟩ (.cons ⟨rfl, rfl, rfl, rfl⟩ .nil)
  · decide +kernel
  · decide +kernel

end Publish
end MetricsScript
