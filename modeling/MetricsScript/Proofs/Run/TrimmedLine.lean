import MetricsScript.Proofs.Command.Trimming
import MetricsScript.Proofs.Run.Steps
import MetricsScript.Proofs.Script.CommandLines

/-!
# The arguments of a trimmed line

A script is cut into trimmed lines before its commands are read, so that a command never sees the
white space around it.  This makes no difference to its arguments, with one exception: text that
is left open at the end of a line loses the white space that it would have held.
-/

namespace MetricsScript
namespace Run

open Command

/-- A command and the white space that was trimmed off its line. -/
structure IsTrimmed (lead command trail : String) : Prop where
  lead : ∀ c ∈ lead.toList, isLineBlank c = true
  trail : ∀ c ∈ trail.toList, isLineBlank c = true
  ne_nil : command.toList ≠ []
  last : ∀ c ∈ command.toList.getLast?, Text.isBlank c = false

/-! ## Trimming one line -/

theorem isBlank_of_isLineBlank {c : Char} (h : isLineBlank c = true) : Text.isBlank c = true := by
  rcases isLineBlank_iff.mp h with rfl | rfl | rfl <;> decide

theorem isBlank_of_isSeparator {c : Char} (h : isSeparator c = true) : Text.isBlank c = true := by
  simp only [isSeparator, Bool.or_eq_true, beq_iff_eq, or_assoc] at h
  rcases h with rfl | rfl | rfl | rfl <;> decide

section
variable {line command : String}

/-- A line without line feeds has one command, with the rest of the line around it. -/
theorem exists_isTrimmed
    (hline : ∀ c ∈ line.toList, Text.isBlank c = true → isLineBlank c = true)
    (h : commandLines line = [command]) :
    ∃ lead trail, line = lead ++ (command ++ trail) ∧ IsTrimmed lead command trail := by
  have hnewline : '\n' ∉ line.toList := fun hmem =>
    absurd (hline '\n' hmem (by decide)) (by decide)
  rw [commandLines_of_not_mem hnewline] at h
  by_cases hblank : Text.trimChars line.toList = []
  · rw [if_pos hblank] at h
    cases h
  rw [if_neg hblank] at h
  obtain rfl := List.singleton_inj.mp h
  obtain ⟨lead, trail, heq, hlead, htrail⟩ := Text.exists_trimChars_eq line.toList
  have hcommand : (Text.trim line).toList = Text.trimChars line.toList := by
    rw [Text.trim, String.toList_ofList]
  refine ⟨String.ofList lead, String.ofList trail, ?_, ?_, ?_, ?_, ?_⟩
  · rw [← String.toList_inj, String.toList_append, String.toList_append, hcommand]
    simpa using heq
  · intro c hc
    rw [String.toList_ofList] at hc
    refine hline c ?_ (hlead c hc)
    rw [heq]
    exact List.mem_append_left _ hc
  · intro c hc
    rw [String.toList_ofList] at hc
    refine hline c ?_ (htrail c hc)
    rw [heq]
    exact List.mem_append_right _ (List.mem_append_right _ hc)
  · rwa [hcommand]
  · rw [hcommand]
    exact Text.isBlank_getLast?_trimChars line.toList

section
variable {lead trail : String}

theorem IsTrimmed.isSeparator_last (h : IsTrimmed lead command trail) :
    ∀ c ∈ command.toList.getLast?, isSeparator c = false := by
  intro c hc
  cases hseparator : isSeparator c with
  | false => rfl
  | true =>
      have hblank := isBlank_of_isSeparator hseparator
      rw [h.last c hc] at hblank
      cases hblank

/-- The line ends in white space exactly if some was trimmed off its end. -/
theorem IsTrimmed.ends_blank_iff (h : IsTrimmed lead command trail) :
    (∃ c ∈ (lead ++ (command ++ trail)).toList.getLast?, Text.isBlank c = true) ↔
      trail.toList ≠ [] := by
  rw [String.toList_append, String.toList_append, ← List.append_assoc]
  constructor
  · rintro ⟨c, hc, hblank⟩ hnil
    rw [hnil, List.append_nil, List.getLast?_append_of_ne_nil _ h.ne_nil] at hc
    rw [h.last c hc] at hblank
    cases hblank
  · intro hne
    rw [List.getLast?_append_of_ne_nil _ hne, List.getLast?_eq_some_getLast hne]
    exact ⟨_, rfl, isBlank_of_isLineBlank (h.trail _ (List.getLast_mem hne))⟩

/-- The white space in front of a command makes no difference, and neither does the white space
behind it if the command leaves nothing open. -/
theorem IsTrimmed.arguments_eq_iff (h : IsTrimmed lead command trail) :
    arguments command = arguments (lead ++ (command ++ trail)) ↔
      ¬((∃ c ∈ (lead ++ (command ++ trail)).toList.getLast?, Text.isBlank c = true) ∧
        LeavesOpen command) := by
  rw [h.ends_blank_iff, arguments_gap_append (isGap_of_forall_isLineBlank h.lead)]
  by_cases hnil : trail.toList = []
  · rw [String.toList_eq_nil_iff.mp hnil, String.append_empty]
    exact iff_of_true rfl fun hopen => hopen.1 rfl
  · rw [eq_comm, and_iff_right hnil]
    exact arguments_append_blanks_iff h.ne_nil h.isSeparator_last ⟨hnil, h.trail⟩

end

/-- A script of one command calls the program with the arguments of that command. -/
theorem run_calls_of_commandLines
    (h : commandLines line = [command]) (config : Configuration)
    (runner : Tool.Runner) (history : List Tool.Invocation) :
    (run config runner history line {}).calls = [config.invocation (arguments command)] := by
  have hplan : plan line {} = [command] := by
    simp [plan, Flags.opening, Flags.closing, Flags.wantsPull, Flags.wantsPush, h]
  have hcalls : (walk config runner history [command]).calls = [config.call command] := by
    by_cases hstops : config.Stops (runner (history ++ [config.call command]))
    · rw [walk_cons_of_stops hstops, step_calls]
    · rw [walk_cons_of_not_stops hstops, Report.append, step_calls]
      rfl
  simp only [run, hplan]
  exact hcalls

end

/-- Trimming a line takes white space off its arguments exactly where the line leaves text open.
Let the white space of a line be spaces, tabs and carriage returns.  If the line has no command,
it has no arguments.  If it has one, the program is called with the arguments of the trimmed
line, and these are the arguments of the line itself unless white space stands at its end and
would be literal text there. -/
theorem arguments_of_trimmed_line
    (line : String)
    (hline : ∀ c ∈ line.toList, Text.isBlank c = true → isLineBlank c = true) :
    (commandLines line = [] → arguments line = []) ∧
    ∀ command, commandLines line = [command] →
      (∀ config runner history,
        (run config runner history line {}).calls = [config.invocation (arguments command)]) ∧
      (arguments command = arguments line ↔
        ¬((∃ c ∈ line.toList.getLast?, Text.isBlank c = true) ∧ LeavesOpen command)) := by
  constructor
  · intro h
    have hblank : ∀ c ∈ line.toList, Text.isBlank c = true := by
      simpa [Text.isAllBlank] using commandLines_eq_nil_iff.mp h
    have hgap : IsGap line.toList :=
      isGap_of_forall_isLineBlank fun c hc => hline c hc (hblank c hc)
    rw [arguments, tokens, readTokens_of_isGap hgap, assemble]
  · intro command h
    refine ⟨run_calls_of_commandLines h, ?_⟩
    obtain ⟨lead, trail, rfl, htrimmed⟩ := exists_isTrimmed hline h
    exact htrimmed.arguments_eq_iff

theorem isLineBlank_of_all
    {line : String} (h : (line.toList.all fun c => !Text.isBlank c || isLineBlank c) = true) :
    ∀ c ∈ line.toList, Text.isBlank c = true → isLineBlank c = true := by
  intro c hc hblank
  have hchar := List.all_eq_true.mp h c hc
  rwa [hblank, Bool.not_true, Bool.false_or] at hchar

/-- The space behind a single quote that is never closed is lost. -/
theorem arguments_of_trimmed_quote :
    commandLines "\tshow 'a \r" = ["show 'a"] ∧ LeavesOpen "show 'a" ∧
      arguments "show 'a" ≠ arguments "\tshow 'a \r" := by
  have hcommand : commandLines "\tshow 'a \r" = ["show 'a"] := by decide +kernel
  have hopen : LeavesOpen "show 'a" :=
    ⟨[], .fragment (.singleQuoted "a"), "show ".toList, "'a".toList, by decide +kernel,
      by decide +kernel, by simp, by simp [Kind.LeftOpen, Fragment.LeftOpen]⟩
  have hline : ∀ c ∈ "\tshow 'a \r".toList, Text.isBlank c = true → isLineBlank c = true :=
    isLineBlank_of_all (by decide +kernel)
  have h := ((arguments_of_trimmed_line "\tshow 'a \r" hline).2 _ hcommand).2
  refine ⟨hcommand, hopen, fun heq => ?_⟩
  exact h.mp heq ⟨⟨'\r', by decide +kernel, by decide⟩, hopen⟩

/-- Without the space behind it a backslash stands for itself. -/
theorem trimmed_escape_changes_argument :
    (∀ c ∈ "show a\\ ".toList, Text.isBlank c = true → isLineBlank c = true) ∧
      commandLines "show a\\ " = ["show a\\"] ∧
      arguments "show a\\" = ["show", "a\\"] ∧ arguments "show a\\ " = ["show", "a "] := by
  refine ⟨isLineBlank_of_all (by decide +kernel), ?_⟩
  decide +kernel

end Run
end MetricsScript
