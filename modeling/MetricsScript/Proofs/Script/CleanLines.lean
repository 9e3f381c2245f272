import Mathlib.Data.List.Forall2
import MetricsScript.Proofs.Script.CommandLines

/-!
# Command lines are clean

A command line is not empty, no newline stands in it, and it begins and ends with characters that
are not blank.  A clean line has nothing left to be cut or trimmed, so that the command lines of a
script, put on lines of their own, are a script with the same command lines.  A carriage return at
the end of a line goes when the line is trimmed, so it does not matter whether the lines of a
script end with one.
-/

namespace MetricsScript

namespace Text

/-- A character, with a carriage return before it if it is a newline. -/
def withReturn (c : Char) : List Char :=
  if c = '\n' then ['\r', '\n'] else [c]

/-- The text with a carriage return before each newline. -/
def withReturns (s : String) : String :=
  String.ofList (s.toList.flatMap withReturn)

/-- One line is another one with blank characters behind it. -/
def AddsBlanks (line original : List Char) : Prop :=
  ∃ blanks, line = original ++ blanks ∧ ∀ c ∈ blanks, isBlank c = true

variable {cs : List Char}

/-! ## Trimming -/

/-- Trimming gives what stands between the blank characters at the ends. -/
theorem trimChars_of_blanks {lead trail : List Char}
    (hlead : ∀ c ∈ lead, isBlank c = true) (htrail : ∀ c ∈ trail, isBlank c = true)
    (hfirst : ∀ c ∈ cs.head?, isBlank c = false) (hlast : ∀ c ∈ cs.getLast?, isBlank c = false) :
    trimChars (lead ++ (cs ++ trail)) = cs := by
  by_cases hcs : cs = []
  · subst hcs
    rw [List.nil_append, trimChars_eq_nil_iff]
    intro c hc
    exact (List.mem_append.mp hc).elim (hlead c) (htrail c)
  have hkept : ∀ ds : List Char, (∀ c ∈ ds.head?, isBlank c = false) →
      ds.dropWhile isBlank = ds := by
    intro ds hds
    cases ds with
    | nil => rfl
    | cons d ds => exact List.dropWhile_cons_of_neg (by simp [hds d rfl])
  have hstart : trimStartChars (lead ++ (cs ++ trail)) = cs ++ trail := by
    rw [trimStartChars, List.dropWhile_append_of_pos hlead]
    apply hkept
    rwa [List.head?_append_of_ne_nil _ hcs]
  have hback : ∀ c ∈ trail.reverse, isBlank c = true := by simpa using htrail
  rw [trimChars, hstart, trimEndChars, List.reverse_append, List.dropWhile_append_of_pos hback,
    hkept _ (by rwa [List.head?_reverse]), List.reverse_reverse]

theorem isBlank_head?_trimChars (cs : List Char) :
    ∀ c ∈ (trimChars cs).head?, isBlank c = false := by
  intro c hc
  have hprefix : trimChars cs <+: trimStartChars cs := by
    rw [trimChars, trimEndChars, ← List.reverse_suffix, List.reverse_reverse]
    exact List.dropWhile_suffix isBlank
  obtain ⟨more, hmore⟩ := hprefix
  have hfirst := List.head?_dropWhile_not isBlank cs
  rw [← trimStartChars, ← hmore, List.head?_append, Option.mem_def.mp hc] at hfirst
  simpa using hfirst

theorem AddsBlanks.trimChars_eq {line original : List Char} (h : AddsBlanks line original) :
    trimChars line = trimChars original := by
  obtain ⟨blanks, rfl, hblanks⟩ := h
  obtain ⟨lead, trail, heq, hlead, htrail⟩ := exists_trimChars_eq original
  have hmore : ∀ c ∈ trail ++ blanks, isBlank c = true := by
    intro c hc
    exact (List.mem_append.mp hc).elim (htrail c) (hblanks c)
  have htrim := trimChars_of_blanks hlead hmore (isBlank_head?_trimChars original)
    (isBlank_getLast?_trimChars original)
  rwa [← List.append_assoc, ← List.append_assoc, List.append_assoc lead, ← heq] at htrim

/-! ## Returns before newlines -/

theorem AddsBlanks.refl (line : List Char) : AddsBlanks line line :=
  ⟨[], (List.append_nil line).symm, by simp⟩

theorem forall₂_addInFront {c : Char} (hc : c ≠ '\n') {lines originals : List (List Char)}
    (h : List.Forall₂ AddsBlanks lines originals) :
    List.Forall₂ AddsBlanks (addInFront c lines) (addInFront c originals) := by
  cases h with
  | nil => simp [addInFront, hc, AddsBlanks.refl]
  | cons hline hlines =>
      obtain ⟨blanks, rfl, hblanks⟩ := hline
      simp only [addInFront, if_neg hc]
      exact .cons ⟨blanks, rfl, hblanks⟩ hlines

/-- With a return before each newline, the pieces have at most a return more. -/
theorem forall₂_pieces_withReturn (cs : List Char) :
    List.Forall₂ AddsBlanks (pieces (cs.flatMap withReturn)) (pieces cs) := by
  induction cs with
  | nil => exact .cons (.refl []) .nil
  | cons c cs ih =>
      rw [List.flatMap_cons]
      by_cases hc : c = '\n'
      · subst hc
        have hreturn : pieces (withReturn '\n' ++ cs.flatMap withReturn) =
            ['\r'] :: pieces (cs.flatMap withReturn) :=
          pieces_append_newline ['\r'] (cs.flatMap withReturn)
        have hline : pieces ('\n' :: cs) = [] :: pieces cs := pieces_append_newline [] cs
        rw [hreturn, hline]
        exact .cons ⟨['\r'], rfl, by simp [isBlank]⟩ ih
      · rw [withReturn, if_neg hc, List.singleton_append, pieces_cons, pieces_cons]
        exact forall₂_addInFront hc ih

end Text

/-- A line that needs neither cutting nor trimming, and that has something on it. -/
structure IsCleanLine (line : String) : Prop where
  ne_empty : line ≠ ""
  newline_not_mem : '\n' ∉ line.toList
  first : ∀ c ∈ line.toList.head?, Text.isBlank c = false
  last : ∀ c ∈ line.toList.getLast?, Text.isBlank c = false

theorem isCleanLine_of_mem_commandLines {script line : String} (h : line ∈ commandLines script) :
    IsCleanLine line := by
  obtain ⟨hne, piece, -, htrim⟩ := mem_commandLines_iff.mp h
  refine ⟨hne, newline_not_mem_of_mem_commandLines h, ?_, ?_⟩
  · rw [← htrim]
    exact Text.isBlank_head?_trimChars piece
  · rw [← htrim]
    exact Text.isBlank_getLast?_trimChars piece

/-- A clean line is a script of one command line, which is that line. -/
theorem IsCleanLine.commandLines_eq {line : String} (h : IsCleanLine line) :
    commandLines line = [line] := by
  have htrim : Text.trimChars line.toList = line.toList := by
    have hnone : ∀ c ∈ ([] : List Char), Text.isBlank c = true := by simp
    simpa using Text.trimChars_of_blanks hnone hnone h.first h.last
  have hne : line.toList ≠ [] := mt String.toList_eq_nil_iff.mp h.ne_empty
  rw [commandLines_of_not_mem h.newline_not_mem, htrim, if_neg hne, Text.trim, htrim,
    String.ofList_toList]

theorem commandLines_intercalate {lines : List String} (h : ∀ line ∈ lines, IsCleanLine line) :
    commandLines ("\n".intercalate lines) = lines := by
  induction lines with
  | nil => exact commandLines_eq_nil_iff.mpr rfl
  | cons line lines ih =>
      obtain ⟨hline, hlines⟩ := List.forall_mem_cons.mp h
      cases lines with
      | nil => rw [String.intercalate_singleton, hline.commandLines_eq]
      | cons next more =>
          rw [String.intercalate_cons_cons, commandLines_append_newline, hline.commandLines_eq,
            ih hlines]
          rfl

theorem commandLines_withReturns (script : String) :
    commandLines (Text.withReturns script) = commandLines script := by
  have htrim : (Text.pieces (Text.withReturns script).toList).map Text.trimChars =
      (Text.pieces script.toList).map Text.trimChars := by
    rw [Text.withReturns, String.toList_ofList, ← List.forall₂_eq_eq_eq,
      List.forall₂_map_left_iff, List.forall₂_map_right_iff]
    exact (Text.forall₂_pieces_withReturn script.toList).imp fun _ _ h => h.trimChars_eq
  rw [commandLines, commandLines, htrim]

/-- Cutting a script into command lines is compositional over newlines, and its lines are clean:
not empty, without newlines, and without blank characters at their ends.  Each of them is its own
only command line, so cutting what is put together of them gives them again.  Whether a return
stands before each newline makes no difference. -/
theorem commandLines_clean :
    (∀ first next, commandLines (first ++ "\n" ++ next) =
      commandLines first ++ commandLines next) ∧
    (∀ script, ∀ line ∈ commandLines script, IsCleanLine line ∧ commandLines line = [line]) ∧
    (∀ script, commandLines ("\n".intercalate (commandLines script)) = commandLines script) ∧
    ∀ script, commandLines (Text.withReturns script) = commandLines script := by
  refine ⟨commandLines_append_newline, ?_, ?_, commandLines_withReturns⟩
  · intro script line hline
    have hclean := isCleanLine_of_mem_commandLines hline
    exact ⟨hclean, hclean.commandLines_eq⟩
  · intro script
    exact commandLines_intercalate fun line => isCleanLine_of_mem_commandLines

/-- A script with returns, blank lines and a no-break space at the end of a line, on which a lone
return inside stays. -/
theorem commandLines_clean_mixed_ends :
    let script := "\u2003add a\r1\u00a0\r\n \t\r\n\u0085show\r"
    commandLines script = ["add a\r1", "show"] ∧ "add a\r1" ∈ commandLines script ∧
      IsCleanLine "add a\r1" ∧ commandLines "add a\r1" = ["add a\r1"] := by
  intro script
  have hlines : commandLines script = ["add a\r1", "show"] := by decide +kernel
  have hmem : "add a\r1" ∈ commandLines script := by simp [hlines]
  exact ⟨hlines, hmem, commandLines_clean.2.1 script _ hmem⟩

end MetricsScript
