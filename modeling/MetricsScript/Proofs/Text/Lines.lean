import MetricsScript.Text.Lines

/-!
# The pieces between newlines

Cutting a text into pieces loses its newlines and nothing else: with newlines between them again
the pieces are the text.  So the pieces of two texts with a newline between them are those of the
one and then those of the other, and every piece stands in the text as it is.
-/

namespace MetricsScript
namespace Text

theorem exists_mem_addInFront_iff {c d : Char} {pieces : List (List Char)} :
    (∃ piece ∈ addInFront d pieces, c ∈ piece) ↔
      (c = d ∧ d ≠ '\n') ∨ ∃ piece ∈ pieces, c ∈ piece := by
  cases pieces with
  | nil =>
      by_cases hd : d = '\n'
      · simp [addInFront, hd]
      · simp [addInFront, hd]
  | cons piece more =>
      by_cases hd : d = '\n'
      · simp [addInFront, hd]
      · simp [addInFront, hd, or_assoc]

theorem exists_mem_pieces_iff {c : Char} {cs : List Char} :
    (∃ piece ∈ pieces cs, c ∈ piece) ↔ c ∈ cs ∧ c ≠ '\n' := by
  induction cs with
  | nil => simp
  | cons d cs ih =>
      rw [pieces_cons, exists_mem_addInFront_iff, ih, List.mem_cons]
      constructor
      · rintro (⟨rfl, hd⟩ | ⟨hc, hne⟩)
        · exact ⟨.inl rfl, hd⟩
        · exact ⟨.inr hc, hne⟩
      · rintro ⟨rfl | hc, hne⟩
        · exact .inl ⟨rfl, hne⟩
        · exact .inr ⟨hc, hne⟩

theorem addInFront_append
    {pieces : List (List Char)} (h : pieces ≠ []) (c : Char) (more : List (List Char)) :
    addInFront c (pieces ++ more) = addInFront c pieces ++ more := by
  cases pieces with
  | nil => exact absurd rfl h
  | cons piece pieces =>
      by_cases hc : c = '\n'
      · simp [addInFront, hc]
      · simp [addInFront, hc]

theorem pieces_append_newline (front back : List Char) :
    pieces (front ++ '\n' :: back) = pieces front ++ pieces back := by
  induction front with
  | nil =>
      rw [List.nil_append, pieces_cons, pieces_nil]
      obtain ⟨piece, more, hpieces⟩ := List.exists_cons_of_ne_nil (pieces_ne_nil back)
      rw [hpieces]
      rfl
  | cons c front ih =>
      rw [List.cons_append, pieces_cons, pieces_cons, ih,
        addInFront_append (pieces_ne_nil front)]

theorem pieces_of_not_mem {cs : List Char} (h : '\n' ∉ cs) : pieces cs = [cs] := by
  induction cs with
  | nil => rfl
  | cons c cs ih =>
      have hc : c ≠ '\n' := fun hc => h (by simp [hc])
      have hcs : '\n' ∉ cs := fun hcs => h (List.mem_cons_of_mem c hcs)
      rw [pieces_cons, ih hcs, addInFront, if_neg hc]

theorem pieces_eq_splitOn (cs : List Char) : pieces cs = cs.splitOn '\n' := by
  induction cs with
  | nil => rfl
  | cons c cs ih =>
      obtain ⟨piece, more, hpieces⟩ := List.exists_cons_of_ne_nil (pieces_ne_nil cs)
      rw [List.splitOn_eq_splitOnP, List.splitOnP_cons_eq_if_modifyHead,
        ← List.splitOn_eq_splitOnP, ← ih, pieces_cons, hpieces]
      by_cases hc : c = '\n'
      · simp [addInFront, hc]
      · simp [addInFront, hc]

theorem intercalate_pieces (cs : List Char) : ['\n'].intercalate (pieces cs) = cs := by
  rw [pieces_eq_splitOn]
  exact List.intercalate_splitOn '\n'

/-- The first piece begins the text, and the others stand in it. -/
theorem exists_pieces_eq_cons (cs : List Char) :
    ∃ piece more, pieces cs = piece :: more ∧ piece <+: cs ∧ ∀ other ∈ more, other <:+: cs := by
  induction cs with
  | nil => exact ⟨[], [], rfl, List.nil_prefix, by simp⟩
  | cons c cs ih =>
      obtain ⟨piece, more, hpieces, hfirst, hmore⟩ := ih
      rw [pieces_cons, hpieces]
      by_cases hc : c = '\n'
      · refine ⟨[], piece :: more, by simp [addInFront, hc], List.nil_prefix, ?_⟩
        intro other hother
        rcases List.mem_cons.mp hother with rfl | hother
        · exact List.infix_cons hfirst.isInfix
        · exact List.infix_cons (hmore other hother)
      · refine ⟨c :: piece, more, by simp [addInFront, hc], ?_, ?_⟩
        · exact List.cons_prefix_cons.mpr ⟨rfl, hfirst⟩
        · intro other hother
          exact List.infix_cons (hmore other hother)

theorem infix_of_mem_pieces {piece cs : List Char} (h : piece ∈ pieces cs) : piece <:+: cs := by
  obtain ⟨first, more, hpieces, hfirst, hmore⟩ := exists_pieces_eq_cons cs
  rw [hpieces] at h
  rcases List.mem_cons.mp h with rfl | hin
  · exact hfirst.isInfix
  · exact hmore piece hin

/-- Lines that were each ended by a newline are the pieces, with nothing behind the last one. -/
theorem pieces_flatMap_newline {lines : List (List Char)} (h : ∀ line ∈ lines, '\n' ∉ line) :
    pieces (lines.flatMap fun line => line ++ ['\n']) = lines ++ [[]] := by
  induction lines with
  | nil => rfl
  | cons line lines ih =>
      obtain ⟨hline, hlines⟩ := List.forall_mem_cons.mp h
      rw [List.flatMap_cons, List.append_assoc, List.singleton_append, pieces_append_newline,
        pieces_of_not_mem hline, ih hlines]
      rfl

/-- Every line is a piece, or one without the carriage return at its end. -/
theorem exists_piece_of_mem_linesOfPieces {pieces : List (List Char)} {line : List Char}
    (h : line ∈ linesOfPieces pieces) : ∃ piece ∈ pieces, line <+: piece := by
  fun_induction linesOfPieces pieces with
  | case1 => cases h
  | case2 last hempty => cases h
  | case3 last hempty => exact ⟨last, List.mem_singleton_self last, by simp_all⟩
  | case4 piece next more ih =>
      rcases List.mem_cons.mp h with rfl | h
      · refine ⟨piece, List.mem_cons_self, ?_⟩
        unfold withoutReturn
        split
        · exact List.dropLast_prefix piece
        · exact List.prefix_rfl
      · obtain ⟨found, hfound, hprefix⟩ := ih h
        exact ⟨found, List.mem_cons_of_mem piece hfound, hprefix⟩

theorem newline_not_mem_of_mem_lines {s line : String} (h : line ∈ lines s) :
    '\n' ∉ line.toList := by
  obtain ⟨cs, hcs, rfl⟩ := List.mem_map.mp h
  obtain ⟨piece, hpiece, hprefix⟩ := exists_piece_of_mem_linesOfPieces hcs
  intro hmem
  rw [String.toList_ofList] at hmem
  exact (exists_mem_pieces_iff.mp ⟨piece, hpiece, hprefix.mem hmem⟩).2 rfl

/-- A line that holds no end of a line is read back as it was written. -/
theorem lines_newline {line : String} (hnewline : '\n' ∉ line.toList)
    (hreturn : '\r' ∉ line.toList) : lines (line ++ "\n") = [line] := by
  have hlast : line.toList.getLast? ≠ some '\r' := fun h => hreturn (List.mem_of_getLast? h)
  have hpieces : pieces (line ++ "\n").toList = [line.toList, []] := by
    rw [String.toList_append]
    exact (pieces_append_newline line.toList []).trans (by rw [pieces_of_not_mem hnewline]; rfl)
  rw [lines, hpieces]
  simp [linesOfPieces, withoutReturn, hlast]

end Text
end MetricsScript
