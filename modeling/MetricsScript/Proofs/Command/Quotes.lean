import MetricsScript.Command.Arguments

/-!
# Quoted text, one step at a time

One equation for each way in which double-quoted text goes on, and what a text without
anything to expand is read as.
-/

namespace MetricsScript
namespace Command

/-- A text without single quotes is read up to the next one. -/
theorem readSingleQuoted_append {text : List Char} (h : '\'' ∉ text) (next : List Char) :
    readSingleQuoted (text ++ '\'' :: next) = (text, next) := by
  have hall : ∀ c ∈ text, (c != '\'') = true := by
    intro c hc
    simp only [bne_iff_ne, ne_eq]
    rintro rfl
    exact h hc
  simp [readSingleQuoted, List.takeWhile_append_of_pos hall,
    List.dropWhile_append_of_pos hall]

/-- The characters that make an expansion of a `$` in front of them. -/
def opensExpansion (c : Char) : Bool :=
  c == '(' || c == '\x7b' || isSpecialParameter c || isNameStart c

theorem readExpansion_eq_none_iff {cs : List Char} :
    readExpansion cs = none ↔ ∀ c ∈ cs.head?, opensExpansion c = false := by
  cases cs with
  | nil => simp [readExpansion]
  | cons c cs =>
      simp only [readExpansion, opensExpansion, List.head?_cons, Option.mem_def,
        Option.some.injEq, forall_eq', Bool.or_eq_false_iff, beq_eq_false_iff_ne, ne_eq]
      by_cases hparen : c = '('
      · simp [hparen]
      by_cases hbrace : c = '\x7b'
      · simp [hbrace]
      by_cases hspecial : isSpecialParameter c = true
      · simp [hparen, hbrace, hspecial]
      by_cases hstart : isNameStart c = true
      · simp [hparen, hbrace, hspecial, hstart]
      · simp [hparen, hbrace, hspecial, hstart]

/-- The first character decides which expansion is read, if any. -/
theorem readExpansion_cases (c : Char) :
    (c = '(' ∧ ∀ cs, readExpansion (c :: cs) =
        some (.substitution (readBody parentheses 0 .bare cs).1,
          (readBody parentheses 0 .bare cs).2)) ∨
      (c = '\x7b' ∧ ∀ cs, readExpansion (c :: cs) =
        some (.parameter ((readBody braces 0 .bare cs).1.takeWhile isNameChar),
          (readBody braces 0 .bare cs).2)) ∨
      (isSpecialParameter c = true ∧
        ∀ cs, readExpansion (c :: cs) = some (.parameter [c], cs)) ∨
      (isNameStart c = true ∧ ∀ cs, readExpansion (c :: cs) =
        some (.parameter ((c :: cs).takeWhile isNameChar), (c :: cs).dropWhile isNameChar)) ∨
      ∀ cs, readExpansion (c :: cs) = none := by
  by_cases hparen : c = '('
  · subst hparen
    exact Or.inl ⟨rfl, fun cs => rfl⟩
  by_cases hbrace : c = '\x7b'
  · subst hbrace
    exact Or.inr (Or.inl ⟨rfl, fun cs => rfl⟩)
  refine Or.inr (Or.inr ?_)
  simp only [readExpansion, if_neg hparen, if_neg hbrace]
  cases isSpecialParameter c with
  | true => exact Or.inl ⟨rfl, fun cs => rfl⟩
  | false =>
      cases isNameStart c with
      | true => exact Or.inr (Or.inl ⟨rfl, fun cs => rfl⟩)
      | false => exact Or.inr (Or.inr fun cs => rfl)

variable {c : Char} {cs : List Char}

@[simp]
theorem readDoubleQuoted_nil : readDoubleQuoted [] = ([], []) := by
  rw [readDoubleQuoted.eq_def]

@[simp]
theorem readDoubleQuoted_close : readDoubleQuoted ('"' :: cs) = ([], cs) := by
  rw [readDoubleQuoted.eq_def]
  simp

theorem readDoubleQuoted_escape (h : isQuotedEscape c = true) :
    readDoubleQuoted ('\\' :: c :: cs) =
      (.char c :: (readDoubleQuoted cs).1, (readDoubleQuoted cs).2) := by
  rw [readDoubleQuoted.eq_def]
  simp [h]

theorem readDoubleQuoted_slash (h : isQuotedEscape c = false) :
    readDoubleQuoted ('\\' :: c :: cs) =
      (.char '\\' :: (readDoubleQuoted (c :: cs)).1, (readDoubleQuoted (c :: cs)).2) := by
  rw [readDoubleQuoted.eq_def]
  simp [h]

theorem readDoubleQuoted_slash_of_head (h : ∀ c ∈ cs.head?, isQuotedEscape c = false) :
    readDoubleQuoted ('\\' :: cs) =
      (.char '\\' :: (readDoubleQuoted cs).1, (readDoubleQuoted cs).2) := by
  cases cs with
  | nil =>
      rw [readDoubleQuoted.eq_def]
      simp
  | cons d cs => exact readDoubleQuoted_slash (h d rfl)

theorem readDoubleQuoted_char (hslash : c ≠ '\\') (hquote : c ≠ '"') (hdollar : c ≠ '$') :
    readDoubleQuoted (c :: cs) =
      (.char c :: (readDoubleQuoted cs).1, (readDoubleQuoted cs).2) := by
  rw [readDoubleQuoted.eq_def]
  simp [hslash, hquote, hdollar]

theorem readDoubleQuoted_expansion
    {e : Expansion} {after : List Char} (h : readExpansion cs = some (e, after)) :
    readDoubleQuoted ('$' :: cs) =
      (.expansion e :: (readDoubleQuoted after).1, (readDoubleQuoted after).2) := by
  rw [readDoubleQuoted.eq_def]
  split
  · next heq => cases heq
  · next heq => simp at heq
  · next heq =>
      obtain ⟨rfl, rfl⟩ := List.cons.inj heq
      rw [if_neg (by decide), if_pos rfl]
      split
      · next h' =>
          rw [h] at h'
          cases h'
          rfl
      · next h' => simp [h] at h'

theorem readDoubleQuoted_dollar (h : readExpansion cs = none) :
    readDoubleQuoted ('$' :: cs) =
      (.char '$' :: (readDoubleQuoted cs).1, (readDoubleQuoted cs).2) := by
  rw [readDoubleQuoted.eq_def]
  split
  · next heq => cases heq
  · next heq => simp at heq
  · next heq =>
      obtain ⟨rfl, rfl⟩ := List.cons.inj heq
      rw [if_neg (by decide), if_pos rfl]
      split
      · next h' => simp [h] at h'
      · rfl

/-! ## Literal text between double quotes -/

/-- Literal text as it is written between double quotes. -/
def escapeQuoted (text : List Char) : List Char :=
  text.flatMap fun c => if isQuotedEscape c then ['\\', c] else [c]

theorem escapeQuoted_eq_self {text : List Char} (h : ∀ c ∈ text, isQuotedEscape c = false) :
    escapeQuoted text = text := by
  induction text with
  | nil => rfl
  | cons c text ih =>
      have htext := ih fun d hd => h d (List.mem_cons_of_mem c hd)
      rw [escapeQuoted] at htext ⊢
      rw [List.flatMap_cons, htext, h c List.mem_cons_self]
      rfl

/-- Literal text is read as its characters, and reading goes on behind it. -/
theorem readDoubleQuoted_escapeQuoted (text rest : List Char) :
    readDoubleQuoted (escapeQuoted text ++ rest) =
      (text.map .char ++ (readDoubleQuoted rest).1, (readDoubleQuoted rest).2) := by
  induction text with
  | nil => rfl
  | cons c text ih =>
      rw [escapeQuoted] at ih ⊢
      rw [List.flatMap_cons, List.append_assoc]
      cases hescape : isQuotedEscape c with
      | true =>
          rw [if_pos rfl, List.cons_append, List.cons_append, List.nil_append,
            readDoubleQuoted_escape hescape, ih]
          rfl
      | false =>
          have hplain : c ≠ '"' ∧ c ≠ '\\' ∧ c ≠ '$' := by
            simpa [isQuotedEscape, and_assoc] using hescape
          rw [if_neg Bool.false_ne_true, List.singleton_append,
            readDoubleQuoted_char hplain.2.1 hplain.1 hplain.2.2, ih]
          rfl

/-- The literal character that a piece of double-quoted text stands for, if it is one. -/
def QuotedPiece.literal : QuotedPiece → List Char
  | .char c => [c]
  | .expansion _ => []

theorem flatMap_literal_map_char (text : List Char) :
    (text.map QuotedPiece.char).flatMap QuotedPiece.literal = text := by
  simp [List.flatMap_map, QuotedPiece.literal]

/-- The literal text of parts of double-quoted text. -/
def literalOf (parts : List QuotedPart) : List Char :=
  parts.flatMap fun part => part.literalText.toList

theorem literalOf_consLiteral (c : Char) (parts : List QuotedPart) :
    literalOf (consLiteral c parts) = c :: literalOf parts := by
  unfold consLiteral
  split
  · simp [literalOf, QuotedPart.literalText]
  · simp [literalOf, QuotedPart.literalText]

theorem literalOf_joinPieces (pieces : List QuotedPiece) :
    literalOf (joinPieces pieces) = pieces.flatMap QuotedPiece.literal := by
  induction pieces with
  | nil => rfl
  | cons piece pieces ih =>
      cases piece with
      | char c => rw [joinPieces, literalOf_consLiteral, ih]; rfl
      | expansion e =>
          have hpart : e.toPart.literalText = "" := by cases e <;> rfl
          rw [joinPieces, literalOf, List.flatMap_cons, hpart]
          exact ih

/-- The argument keeps of double-quoted text its literal characters. -/
theorem literalText_doubleQuoted (pieces : List QuotedPiece) :
    (Fragment.doubleQuoted (QuotedPart.ofPieces pieces)).literalText =
      String.ofList (pieces.flatMap QuotedPiece.literal) := by
  have hliteral : literalOf (QuotedPart.ofPieces pieces) =
      pieces.flatMap QuotedPiece.literal := by
    cases pieces with
    | nil => rfl
    | cons piece pieces => exact literalOf_joinPieces (piece :: pieces)
  rw [← hliteral, ← String.toList_inj]
  simp [Fragment.literalText, literalOf, List.flatMap_map]

end Command
end MetricsScript
