import Mathlib.Data.List.TakeWhile
import MetricsScript.Proofs.Text.Lines
import MetricsScript.Script

/-!
# Which scripts have command lines

Cutting a script into pieces loses its newlines and nothing else, and trimming a piece leaves
nothing of it if it is blank and only then.  So a script without command lines is a blank one,
and of two scripts with a newline between them each keeps its own command lines.
-/

namespace MetricsScript

namespace Text

theorem trimChars_eq_nil_iff {cs : List Char} :
    trimChars cs = [] ↔ ∀ c ∈ cs, isBlank c = true := by
  have hend : ∀ ds : List Char, trimEndChars ds = [] ↔ ∀ c ∈ ds, isBlank c = true := by
    intro ds
    simp [trimEndChars, List.dropWhile_eq_nil_iff]
  rw [trimChars, hend, trimStartChars]
  constructor
  · intro h c hc
    rw [← List.takeWhile_append_dropWhile (p := isBlank) (l := cs), List.mem_append] at hc
    rcases hc with hfront | hback
    · exact List.mem_takeWhile_imp hfront
    · exact h c hback
  · intro h c hc
    exact h c ((List.dropWhile_sublist isBlank).mem hc)

theorem trim_eq_empty_iff {s : String} : trim s = "" ↔ isAllBlank s = true := by
  rw [trim, isAllBlank, List.all_eq_true, ← trimChars_eq_nil_iff]
  simp

/-- Trimming takes blank characters off both ends. -/
theorem exists_trimChars_eq (cs : List Char) :
    ∃ lead trail, cs = lead ++ (trimChars cs ++ trail) ∧ (∀ c ∈ lead, isBlank c = true) ∧
      ∀ c ∈ trail, isBlank c = true := by
  refine ⟨cs.takeWhile isBlank, ((trimStartChars cs).reverse.takeWhile isBlank).reverse,
    ?_, fun c hc => List.mem_takeWhile_imp hc, fun c hc => ?_⟩
  · rw [trimChars, trimEndChars, ← List.reverse_append, List.takeWhile_append_dropWhile,
      List.reverse_reverse, trimStartChars, List.takeWhile_append_dropWhile]
  · exact List.mem_takeWhile_imp (List.mem_reverse.mp hc)

theorem isBlank_getLast?_trimChars (cs : List Char) :
    ∀ c ∈ (trimChars cs).getLast?, isBlank c = false := by
  intro c hc
  rw [trimChars, trimEndChars, List.getLast?_reverse] at hc
  have hhead := List.head?_dropWhile_not isBlank (trimStartChars cs).reverse
  rw [Option.mem_def.mp hc] at hhead
  simpa using hhead

theorem trimChars_sublist (cs : List Char) : (trimChars cs).Sublist cs := by
  have hend (ds : List Char) : (trimEndChars ds).Sublist ds := by
    simpa [trimEndChars] using (List.dropWhile_sublist isBlank (l := ds.reverse)).reverse
  exact (hend _).trans (List.dropWhile_sublist isBlank)

end Text

/-- A command line is what trimming leaves of a piece that is not blank. -/
theorem mem_commandLines_iff {script line : String} :
    line ∈ commandLines script ↔
      line ≠ "" ∧ ∃ piece ∈ Text.pieces script.toList, Text.trimChars piece = line.toList := by
  simp only [commandLines, List.mem_map, List.mem_filter, Bool.not_eq_true',
    List.isEmpty_eq_false_iff]
  constructor
  · rintro ⟨cs, ⟨⟨piece, hpiece, rfl⟩, hne⟩, rfl⟩
    refine ⟨?_, piece, hpiece, String.toList_ofList.symm⟩
    simpa using hne
  · rintro ⟨hne, piece, hpiece, htrim⟩
    refine ⟨line.toList, ⟨⟨piece, hpiece, htrim⟩, ?_⟩, String.ofList_toList⟩
    simpa using hne

theorem newline_not_mem_of_mem_commandLines {script line : String}
    (h : line ∈ commandLines script) : '\n' ∉ line.toList := by
  obtain ⟨-, piece, hpiece, htrim⟩ := mem_commandLines_iff.mp h
  rw [← htrim]
  intro hmem
  have hin : '\n' ∈ piece := (Text.trimChars_sublist piece).mem hmem
  exact (Text.exists_mem_pieces_iff.mp ⟨piece, hpiece, hin⟩).2 rfl

/-- A script without newlines is one command line, or none if it is blank. -/
theorem commandLines_of_not_mem {line : String} (h : '\n' ∉ line.toList) :
    commandLines line =
      if Text.trimChars line.toList = [] then [] else [Text.trim line] := by
  rw [commandLines, Text.pieces_of_not_mem h, Text.trim]
  by_cases hblank : Text.trimChars line.toList = []
  · simp [hblank]
  · simp [hblank]

theorem commandLines_eq_nil_iff {script : String} :
    commandLines script = [] ↔ Text.isAllBlank script = true := by
  have hnewline : Text.isBlank '\n' = true := by decide
  simp only [commandLines, List.map_eq_nil_iff, List.filter_eq_nil_iff, List.mem_map,
    Bool.not_eq_true', Bool.not_eq_false, List.isEmpty_iff, Text.isAllBlank, List.all_eq_true]
  constructor
  · intro h c hc
    by_cases hne : c = '\n'
    · rw [hne]
      exact hnewline
    · obtain ⟨piece, hpiece, hin⟩ := Text.exists_mem_pieces_iff.mpr ⟨hc, hne⟩
      exact Text.trimChars_eq_nil_iff.mp (h _ ⟨piece, hpiece, rfl⟩) c hin
  · rintro h _ ⟨piece, hpiece, rfl⟩
    rw [Text.trimChars_eq_nil_iff]
    intro c hin
    exact h c (Text.exists_mem_pieces_iff.mp ⟨piece, hpiece, hin⟩).1

theorem commandLines_append_newline (first next : String) :
    commandLines (first ++ "\n" ++ next) = commandLines first ++ commandLines next := by
  have hchars : (first ++ "\n" ++ next).toList = first.toList ++ '\n' :: next.toList := by
    simp [String.toList_append]
  rw [commandLines, hchars, Text.pieces_append_newline, List.map_append, List.filter_append,
    List.map_append, commandLines, commandLines]

end MetricsScript
