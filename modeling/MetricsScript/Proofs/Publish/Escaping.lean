import MetricsScript.Proofs.Text.Lines
import MetricsScript.Publish.Annotation

/-!
# Escaped messages

The escapes of a message are written one after another, that of the escape's own mark first.
What one of them writes holds nothing that a later one looks for, so they come to the same as
a single pass over the message.  A single pass also reads the message back.
-/

namespace MetricsScript
namespace Publish

/-- What a character is in the data of a workflow command. -/
def escapeChar (c : Char) : List Char :=
  if c = '%' then ['%', '2', '5']
  else if c = '\r' then ['%', '0', 'D']
  else if c = '\n' then ['%', '0', 'A']
  else [c]

/-- Reads the data of a workflow command.  A mark that begins none of the codes stands for
itself. -/
def unescape : List Char → List Char
  | [] => []
  | '%' :: '2' :: '5' :: cs => '%' :: unescape cs
  | '%' :: '0' :: 'D' :: cs => '\r' :: unescape cs
  | '%' :: '0' :: 'A' :: cs => '\n' :: unescape cs
  | c :: cs => c :: unescape cs

/-- A character that no code is written for. -/
def IsPlain (c : Char) : Prop :=
  c ≠ '%' ∧ c ≠ '\r' ∧ c ≠ '\n'

theorem coded_or_isPlain (c : Char) : c = '%' ∨ c = '\r' ∨ c = '\n' ∨ IsPlain c := by
  by_cases hmark : c = '%'
  · exact .inl hmark
  by_cases hreturn : c = '\r'
  · exact .inr (.inl hreturn)
  by_cases hnewline : c = '\n'
  · exact .inr (.inr (.inl hnewline))
  · exact .inr (.inr (.inr ⟨hmark, hreturn, hnewline⟩))

theorem IsPlain.escapeChar {c : Char} (h : IsPlain c) : escapeChar c = [c] := by
  obtain ⟨hmark, hreturn, hnewline⟩ := h
  simp [Publish.escapeChar, hmark, hreturn, hnewline]

/-! ## Writing in one pass -/

theorem replaceChar_append (c : Char) (text front back : List Char) :
    replaceChar c text (front ++ back) = replaceChar c text front ++ replaceChar c text back :=
  List.flatMap_append

theorem replaceChar_of_ne {c d : Char} (h : d ≠ c) (text : List Char) :
    replaceChar c text [d] = [d] := by
  simp [replaceChar, h]

/-- The three replacements of `escapeData`. -/
def replaceAll (cs : List Char) : List Char :=
  replaceChar '\n' ['%', '0', 'A']
    (replaceChar '\r' ['%', '0', 'D'] (replaceChar '%' ['%', '2', '5'] cs))

theorem replaceAll_append (front back : List Char) :
    replaceAll (front ++ back) = replaceAll front ++ replaceAll back := by
  simp only [replaceAll, replaceChar_append]

theorem replaceAll_singleton (c : Char) : replaceAll [c] = escapeChar c := by
  rcases coded_or_isPlain c with rfl | rfl | rfl | hplain
  · rfl
  · rfl
  · rfl
  · rw [hplain.escapeChar, replaceAll, replaceChar_of_ne hplain.1, replaceChar_of_ne hplain.2.1,
      replaceChar_of_ne hplain.2.2]

theorem replaceAll_eq_flatMap (cs : List Char) : replaceAll cs = cs.flatMap escapeChar := by
  induction cs with
  | nil => rfl
  | cons c cs ih =>
      rw [List.flatMap_cons, ← ih, ← replaceAll_singleton, ← replaceAll_append,
        List.singleton_append]

theorem toList_escapeData (message : String) :
    (escapeData message).toList = message.toList.flatMap escapeChar := by
  rw [← replaceAll_eq_flatMap]
  exact String.toList_ofList

/-! ## Reading back -/

theorem unescape_cons {c : Char} (h : c ≠ '%') (cs : List Char) :
    unescape (c :: cs) = c :: unescape cs := by
  rw [unescape.eq_def]
  split
  · next hnil => cases hnil
  · next hcons => exact absurd (List.cons.inj hcons).1 h
  · next hcons => exact absurd (List.cons.inj hcons).1 h
  · next hcons => exact absurd (List.cons.inj hcons).1 h
  · next hcons =>
      obtain ⟨rfl, rfl⟩ := List.cons.inj hcons
      rfl

/-- What is written for a character is read as that character, whatever follows. -/
theorem unescape_escapeChar (c : Char) (rest : List Char) :
    unescape (escapeChar c ++ rest) = c :: unescape rest := by
  rcases coded_or_isPlain c with rfl | rfl | rfl | hplain
  · rfl
  · rfl
  · rfl
  · rw [hplain.escapeChar, List.singleton_append, unescape_cons hplain.1]

theorem unescape_escapeData (message : String) :
    unescape (escapeData message).toList = message.toList := by
  rw [toList_escapeData]
  induction message.toList with
  | nil => rfl
  | cons c cs ih => rw [List.flatMap_cons, unescape_escapeChar, ih]

theorem escapeData_injective : Function.Injective escapeData := by
  intro message other h
  apply String.toList_injective
  rw [← unescape_escapeData message, ← unescape_escapeData other, h]

/-! ## A single line -/

theorem not_mem_escapeChar (c : Char) : '\r' ∉ escapeChar c ∧ '\n' ∉ escapeChar c := by
  rcases coded_or_isPlain c with rfl | rfl | rfl | hplain
  · decide
  · decide
  · decide
  · rw [hplain.escapeChar, List.mem_singleton, List.mem_singleton]
    exact ⟨hplain.2.1.symm, hplain.2.2.symm⟩

theorem not_mem_escapeData (message : String) :
    '\r' ∉ (escapeData message).toList ∧ '\n' ∉ (escapeData message).toList := by
  rw [toList_escapeData, List.mem_flatMap, List.mem_flatMap]
  constructor
  · rintro ⟨c, -, hc⟩
    exact (not_mem_escapeChar c).1 hc
  · rintro ⟨c, -, hc⟩
    exact (not_mem_escapeChar c).2 hc

/-- Escaping a message is a single pass over it that leaves no end of a line, and a single pass
undoes it.  So the annotation of an error is printed as one line, and it tells which message it
is of. -/
theorem escapeData_reversible (message : String) :
    '\r' ∉ (escapeData message).toList ∧ '\n' ∉ (escapeData message).toList ∧
      (escapeData message).toList = message.toList.flatMap escapeChar ∧
      unescape (escapeData message).toList = message.toList ∧
      Text.lines (Publish.errorAnnotation message ++ "\n") = [Publish.errorAnnotation message] ∧
      ∀ other, errorAnnotation other = errorAnnotation message ↔ other = message := by
  obtain ⟨hreturn, hnewline⟩ := not_mem_escapeData message
  refine ⟨hreturn, hnewline, toList_escapeData message, unescape_escapeData message, ?_, ?_⟩
  · have hcommand : '\n' ∉ "::error::".toList ∧ '\r' ∉ "::error::".toList := by decide
    apply Text.lines_newline
    · rw [Publish.errorAnnotation, String.toList_append, List.mem_append, not_or]
      exact ⟨hcommand.1, hnewline⟩
    · rw [Publish.errorAnnotation, String.toList_append, List.mem_append, not_or]
      exact ⟨hcommand.2, hreturn⟩
  · intro other
    constructor
    · intro hsame
      exact escapeData_injective ((String.append_right_inj "::error::").mp hsame)
    · rintro rfl
      rfl

example : escapeData "50%\r\n%0A" = "50%25%0D%0A%250A" := by
  decide +kernel

end Publish
end MetricsScript
