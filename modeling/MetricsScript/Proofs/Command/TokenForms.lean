import MetricsScript.Proofs.Command.LeftOpen
import MetricsScript.Proofs.Command.Slices

/-!
# The forms that tokens take

The reader does not make every token that there could be.  Words are not empty, neighbouring
literal parts of double-quoted text are one part, and names of parameters are made of the
characters of names.  A `#` opens a comment unless a fragment touches it, so that no comment is
glued to an argument and every fragment that starts with a `#` is.
-/

namespace MetricsScript
namespace Command

/-- A special parameter, or a name, which may be empty. -/
def IsParameterName (name : List Char) : Prop :=
  (∃ c, name = [c] ∧ isSpecialParameter c = true) ∨ ∀ c ∈ name, isNameChar c = true

/-- No two literals stand beside each other. -/
def NoNeighbours (parts : List QuotedPart) : Prop :=
  parts.IsChain fun p q => ¬(p.isLiteral = true ∧ q.isLiteral = true)

/-- The parts that double-quoted text can have: at least one, no two literals beside each other,
and an empty literal only by itself. -/
structure AreParts (parts : List QuotedPart) : Prop where
  ne_nil : parts ≠ []
  apart : NoNeighbours parts
  empty : .literal "" ∈ parts → parts = [.literal ""]
  name : ∀ name, .parameter name ∈ parts → IsParameterName name.toList

/-- The fragments that can be read from a text.  A parameter without a name is only read from
braces. -/
def Fragment.FormOf (source : List Char) : Fragment → Prop
  | .word text => text ≠ ""
  | .singleQuoted text => '\'' ∉ text.toList
  | .doubleQuoted parts =>
      AreParts parts ∧ (.parameter "" ∈ parts → ['$', '\x7b'] <:+: source)
  | .glob text => text ≠ "" ∧ ∃ c ∈ text.toList, isGlobChar c = true
  | .parameter name => IsParameterName name.toList ∧ (name = "" → ['$', '\x7b'] <+: source)
  | .substitution _ _ => True

/-- The tokens that can be read from a text. -/
def Kind.FormOf (source : List Char) : Kind → Prop
  | .fragment f => f.FormOf source
  | .comment text => '\n' ∉ text.toList ∧ '\r' ∉ text.toList
  | .control _ | .redirect _ _ | .redirectBoth _ | .processSubstitution _ => True

/-- Whether the token stands between arguments and is no comment. -/
def Kind.isOperator : Kind → Bool
  | .control _ | .redirect _ _ | .redirectBoth _ | .processSubstitution _ => true
  | .fragment _ | .comment _ => false

variable {pos : Nat} {glued : Bool} {c : Char} {cs : List Char} {ts : List Token} {kind : Kind}

/-! ## Words -/

theorem exists_isGlobChar_of_readWord (h : (readWord cs).1.glob = true) :
    ∃ c ∈ (readWord cs).1.text, isGlobChar c = true := by
  fun_induction readWord cs with
  | case1 => cases h
  | case2 cs ih => exact ih h
  | case3 cs ih => exact ih h
  | case4 c cs _ _ word rest hread ih =>
      rw [hread] at ih
      obtain ⟨d, hd, hglob⟩ := ih h
      exact ⟨d, List.mem_cons_of_mem c hd, hglob⟩
  | case5 c cs => cases h
  | case6 c cs _ _ _ _ word rest hread ih =>
      rw [hread] at ih
      by_cases hc : isGlobChar c = true
      · exact ⟨c, List.mem_cons_self, hc⟩
      · have hword : word.glob = true := by simpa [Word.consPlain, hc] using h
        obtain ⟨d, hd, hglob⟩ := ih hword
        exact ⟨d, List.mem_cons_of_mem c hd, hglob⟩

/-- A word that begins where a token does has a first character. -/
theorem text_ne_nil_of_readWord
    (hstart : StartsToken (c :: cs)) (hboundary : isWordBoundary c = false) :
    (readWord (c :: cs)).1.text ≠ [] := by
  by_cases hslash : c = '\\'
  · subst hslash
    cases cs with
    | nil => exact List.cons_ne_nil _ _
    | cons d ds =>
        rw [startsToken_cons_iff] at hstart
        have hfeed : d ≠ '\n' := by
          rintro rfl
          exact hstart (Or.inr ⟨rfl, ds, Or.inl rfl⟩)
        have hreturn : ∀ r, d = '\r' → ds ≠ '\n' :: r := by
          rintro r rfl rfl
          exact hstart (Or.inr ⟨rfl, r, Or.inr rfl⟩)
        rw [readWord_escape hfeed hreturn]
        exact List.cons_ne_nil _ _
  · rw [readWord_plain hslash hboundary]
    exact List.cons_ne_nil _ _

theorem Word.formOf_toKind
    {w : Word} (hne : w.text ≠ [])
    (hglob : w.glob = true → ∃ c ∈ w.text, isGlobChar c = true) (source : List Char) :
    w.toKind.FormOf source := by
  have htext : String.ofList w.text ≠ "" := by simpa using hne
  rw [Word.toKind]
  split
  · next h =>
      refine ⟨htext, ?_⟩
      rw [String.toList_ofList]
      exact hglob h
  · exact htext

/-! ## Operators -/

theorem Kind.formOf_of_isOperator (h : kind.isOperator = true) (source : List Char) :
    kind.FormOf source := by
  cases kind with
  | fragment f => cases h
  | comment text => cases h
  | _ => trivial

theorem isOperator_readAmpersand (cs : List Char) : (readAmpersand cs).1.isOperator = true := by
  fun_cases readAmpersand cs <;> rfl

theorem isOperator_readPipe (cs : List Char) : (readPipe cs).1.isOperator = true := by
  fun_cases readPipe cs <;> rfl

theorem isOperator_readSemicolon (cs : List Char) :
    (readSemicolon cs).1.isOperator = true := by
  fun_cases readSemicolon cs <;> rfl

theorem isOperator_readOutput (descriptor : Option UInt32) (cs : List Char) :
    (readOutput descriptor cs).1.isOperator = true := by
  fun_cases readOutput descriptor cs <;> rfl

theorem isOperator_readInput (descriptor : Option UInt32) (cs : List Char) :
    (readInput descriptor cs).1.isOperator = true := by
  fun_cases readInput descriptor cs <;> rfl

/-- A plain token is its word or an operator. -/
theorem readPlain_eq_or_isOperator (cs : List Char) :
    readPlain cs = ((readWord cs).1.toKind, (readWord cs).2) ∨
      (readPlain cs).1.isOperator = true := by
  rcases readPlain_cases cs with hread | ⟨n, rest, hread⟩ | ⟨n, rest, hread⟩
  · exact Or.inl hread
  · rw [hread]
    exact Or.inr (isOperator_readOutput _ _)
  · rw [hread]
    exact Or.inr (isOperator_readInput _ _)

theorem Word.isFragment_toKind (w : Word) : w.toKind.isFragment = true := by
  rw [Word.toKind]
  split
  · rfl
  · rfl

theorem isFragment_readDollar (cs : List Char) : (readDollar cs).1.isFragment = true := by
  cases hexpansion : readExpansion cs with
  | none =>
      rw [readDollar_of_none hexpansion]
      exact Word.isFragment_toKind _
  | some read => exact (readDollar_of_some hexpansion).1

/-- Every token is a fragment or an operator, but for the comments. -/
theorem isFragment_or_isOperator_of_readToken (glued : Bool) (c : Char) (cs : List Char) :
    (readToken glued c cs).1.isFragment = true ∨ (readToken glued c cs).1.isOperator = true ∨
      glued = false := by
  have hread := readBy_readToken glued c
  generalize readToken glued c = read at hread
  cases hread with
  | comment hglued => exact Or.inr (Or.inr hglued)
  | ampersand => exact Or.inr (Or.inl (isOperator_readAmpersand cs))
  | pipe => exact Or.inr (Or.inl (isOperator_readPipe cs))
  | semicolon => exact Or.inr (Or.inl (isOperator_readSemicolon cs))
  | openParen => exact Or.inr (Or.inl rfl)
  | closeParen => exact Or.inr (Or.inl rfl)
  | output => exact Or.inr (Or.inl (isOperator_readOutput none cs))
  | input => exact Or.inr (Or.inl (isOperator_readInput none cs))
  | dollar => exact Or.inl (isFragment_readDollar cs)
  | backticks => exact Or.inl rfl
  | singleQuoted => exact Or.inl rfl
  | doubleQuoted => exact Or.inl rfl
  | plain _ _ =>
      simp only
      rcases readPlain_eq_or_isOperator (c :: cs) with hplain | hoperator
      · rw [hplain]
        exact Or.inl (Word.isFragment_toKind _)
      · exact Or.inr (Or.inl hoperator)

/-! ## Comments and quotes -/

theorem formOf_readComment (cs source : List Char) : (readComment cs).1.FormOf source := by
  have hall : ∀ c ∈ cs.takeWhile isCommentChar, isCommentChar c = true :=
    fun c hc => List.mem_takeWhile_imp hc
  rw [readComment]
  change '\n' ∉ (String.ofList _).toList ∧ '\r' ∉ (String.ofList _).toList
  rw [String.toList_ofList]
  constructor
  · intro hfeed
    exact absurd (hall _ hfeed) (by decide)
  · intro hreturn
    exact absurd (hall _ hreturn) (by decide)

theorem notMem_readSingleQuoted (cs : List Char) : '\'' ∉ (readSingleQuoted cs).1 := by
  intro hquote
  have hne := List.mem_takeWhile_imp (p := (· != '\'')) hquote
  simp at hne

/-! ## Parameters -/

/-- Only braces can leave a parameter without a name. -/
theorem isParameterName_of_readExpansion
    {name rest : List Char} (h : readExpansion cs = some (.parameter name, rest)) :
    IsParameterName name ∧ (name = [] → ['\x7b'] <+: cs) := by
  have hall : ∀ ds : List Char, ∀ c ∈ ds.takeWhile isNameChar, isNameChar c = true :=
    fun ds c hc => List.mem_takeWhile_imp hc
  cases cs with
  | nil => cases h
  | cons c cs =>
      rcases readExpansion_cases c with ⟨-, hread⟩ | ⟨rfl, hread⟩ | ⟨hspecial, hread⟩ |
        ⟨hstart, hread⟩ | hread
      all_goals rw [hread] at h
      · cases h
      · cases h
        exact ⟨Or.inr (hall _), fun _ => ⟨cs, rfl⟩⟩
      · cases h
        exact ⟨Or.inl ⟨c, rfl, hspecial⟩, fun hnil => by cases hnil⟩
      · cases h
        refine ⟨Or.inr (hall _), fun hnil => ?_⟩
        simp [isNameChar, hstart] at hnil
      · cases h

/-- The expansion is read behind a `$` of the text. -/
def HasExpansion (cs : List Char) (e : Expansion) : Prop :=
  ∃ front back rest, cs = front ++ '$' :: back ∧ readExpansion back = some (e, rest)

theorem HasExpansion.append {e : Expansion} (h : HasExpansion cs e) (more : List Char) :
    HasExpansion (more ++ cs) e := by
  obtain ⟨front, back, rest, rfl, hback⟩ := h
  exact ⟨more ++ front, back, rest, by rw [List.append_assoc], hback⟩

theorem hasExpansion_of_mem
    {e : Expansion} (h : .expansion e ∈ (readDoubleQuoted cs).1) : HasExpansion cs e := by
  fun_induction readDoubleQuoted cs with
  | case1 => cases h
  | case2 c cs _ pieces rest hread ih =>
      rw [hread] at ih
      exact (ih (List.mem_of_ne_of_mem (by simp) h)).append ['\\', c]
  | case3 c cs _ pieces rest hread ih =>
      rw [hread] at ih
      exact (ih (List.mem_of_ne_of_mem (by simp) h)).append ['\\']
  | case4 cs => cases h
  | case5 cs e' after hexpansion _ pieces rest hread _ _ ih =>
      rw [hread] at ih
      rcases List.mem_cons.mp h with heq | hmem
      · obtain rfl := QuotedPiece.expansion.inj heq
        exact ⟨[], cs, after, rfl, hexpansion⟩
      · obtain ⟨text, rfl, -⟩ := readExpansion_replace hexpansion
        exact (ih hmem).append ('$' :: text)
  | case6 cs _ pieces rest hread _ _ ih =>
      rw [hread] at ih
      exact (ih (List.mem_of_ne_of_mem (by simp) h)).append ['$']
  | case7 c cs _ _ _ pieces rest hread ih =>
      rw [hread] at ih
      exact (ih (List.mem_of_ne_of_mem (by simp) h)).append [c]

/-! ## Parts of double-quoted text -/

theorem noNeighbours_consLiteral
    (c : Char) {parts : List QuotedPart} (h : NoNeighbours parts) :
    NoNeighbours (consLiteral c parts) := by
  fun_cases consLiteral c parts with
  | case1 text parts =>
      obtain ⟨hhead, hrest⟩ := List.isChain_cons.mp h
      exact List.isChain_cons.mpr ⟨hhead, hrest⟩
  | case2 parts hliteral =>
      refine List.isChain_cons.mpr ⟨?_, h⟩
      rintro part hpart ⟨-, hpartliteral⟩
      cases part with
      | literal text =>
          obtain ⟨rest, hrest⟩ := List.head?_eq_some_iff.mp hpart
          exact hliteral text rest hrest
      | parameter name => cases hpartliteral
      | substitution content => cases hpartliteral

theorem noNeighbours_joinPieces (pieces : List QuotedPiece) :
    NoNeighbours (joinPieces pieces) := by
  induction pieces with
  | nil => exact .nil
  | cons piece pieces ih =>
      cases piece with
      | char c => exact noNeighbours_consLiteral c ih
      | expansion e =>
          refine List.isChain_cons.mpr ⟨fun part _ hliteral => ?_, ih⟩
          cases e with
          | parameter name => cases hliteral.1
          | substitution content => cases hliteral.1

theorem mem_consLiteral
    {c : Char} {parts : List QuotedPart} {part : QuotedPart} (h : part ∈ consLiteral c parts) :
    (∃ text, part = .literal text ∧ text ≠ "") ∨ part ∈ parts := by
  unfold consLiteral at h
  split at h
  · rcases List.mem_cons.mp h with rfl | hmem
    · exact Or.inl ⟨_, rfl, by simp [← String.toList_eq_nil_iff]⟩
    · exact Or.inr (List.mem_cons_of_mem _ hmem)
  · rcases List.mem_cons.mp h with rfl | hmem
    · exact Or.inl ⟨_, rfl, by simp [← String.toList_eq_nil_iff]⟩
    · exact Or.inr hmem

/-- A part is a literal with a character in it, or one of the expansions. -/
theorem mem_joinPieces
    {pieces : List QuotedPiece} {part : QuotedPart} (h : part ∈ joinPieces pieces) :
    (∃ text, part = .literal text ∧ text ≠ "") ∨ ∃ e, .expansion e ∈ pieces ∧ part = e.toPart := by
  induction pieces with
  | nil => cases h
  | cons piece pieces ih =>
      have hlater : (∃ e, .expansion e ∈ pieces ∧ part = e.toPart) →
          ∃ e, .expansion e ∈ piece :: pieces ∧ part = e.toPart :=
        fun ⟨e, hmem, hpart⟩ => ⟨e, List.mem_cons_of_mem piece hmem, hpart⟩
      cases piece with
      | char c =>
          rcases mem_consLiteral h with hliteral | hmem
          · exact Or.inl hliteral
          · exact (ih hmem).imp id hlater
      | expansion e =>
          rcases List.mem_cons.mp h with rfl | hmem
          · exact Or.inr ⟨e, List.mem_cons_self, rfl⟩
          · exact (ih hmem).imp id hlater

theorem joinPieces_ne_nil {pieces : List QuotedPiece} (h : pieces ≠ []) :
    joinPieces pieces ≠ [] := by
  cases pieces with
  | nil => exact absurd rfl h
  | cons piece pieces =>
      cases piece with
      | char c =>
          rw [joinPieces]
          fun_cases consLiteral c (joinPieces pieces) with
          | case1 text parts => exact List.cons_ne_nil _ _
          | case2 parts _ => exact List.cons_ne_nil _ _
      | expansion e => exact List.cons_ne_nil _ _

/-- A parameter in double-quoted text is read behind a `$` of that text. -/
theorem isParameterName_of_mem
    {name : String} (h : .parameter name ∈ QuotedPart.ofPieces (readDoubleQuoted cs).1) :
    IsParameterName name.toList ∧ (name = "" → ['$', '\x7b'] <:+: cs) := by
  rw [QuotedPart.ofPieces] at h
  split at h
  · cases List.mem_singleton.mp h
  · rcases mem_joinPieces h with ⟨text, htext, -⟩ | ⟨e, he, hpart⟩
    · cases htext
    · cases e with
      | substitution content => cases hpart
      | parameter read =>
          obtain rfl := QuotedPart.parameter.inj hpart
          obtain ⟨front, back, rest, rfl, hback⟩ := hasExpansion_of_mem he
          obtain ⟨hname, hempty⟩ := isParameterName_of_readExpansion hback
          rw [String.toList_ofList]
          refine ⟨hname, fun hnil => ?_⟩
          obtain ⟨more, rfl⟩ := hempty (by simpa using hnil)
          exact ⟨front, more, by simp⟩

theorem areParts_readDoubleQuoted (cs : List Char) :
    AreParts (QuotedPart.ofPieces (readDoubleQuoted cs).1) where
  ne_nil := by
    rw [QuotedPart.ofPieces]
    split
    · exact List.cons_ne_nil _ _
    · next hne => exact joinPieces_ne_nil (by simpa using hne)
  apart := by
    rw [QuotedPart.ofPieces]
    split
    · exact .singleton _
    · exact noNeighbours_joinPieces _
  empty := by
    rw [QuotedPart.ofPieces]
    split
    · exact fun _ => rfl
    · intro hmem
      rcases mem_joinPieces hmem with ⟨text, htext, hne⟩ | ⟨e, -, hpart⟩
      · exact absurd (QuotedPart.literal.inj htext).symm hne
      · cases e with
        | parameter name => cases hpart
        | substitution content => cases hpart
  name := fun _ hname => (isParameterName_of_mem hname).1

/-! ## One token -/

theorem formOf_readDollar (cs : List Char) : (readDollar cs).1.FormOf ('$' :: cs) := by
  cases hexpansion : readExpansion cs with
  | none =>
      rw [readDollar_of_none hexpansion]
      refine Word.formOf_toKind (List.cons_ne_nil _ _) (fun hglob => ?_) _
      obtain ⟨c, hc, hchar⟩ := exists_isGlobChar_of_readWord hglob
      exact ⟨c, List.mem_cons_of_mem _ hc, hchar⟩
  | some read =>
      obtain ⟨e, rest⟩ := read
      cases e with
      | substitution content =>
          simp only [readDollar, hexpansion]
          trivial
      | parameter name =>
          obtain ⟨hname, hempty⟩ := isParameterName_of_readExpansion hexpansion
          simp only [readDollar, hexpansion]
          change IsParameterName (String.ofList name).toList ∧ (String.ofList name = "" → _)
          rw [String.toList_ofList]
          refine ⟨hname, fun hnil => ?_⟩
          obtain ⟨more, rfl⟩ := hempty (by simpa using hnil)
          exact ⟨more, rfl⟩

theorem formOf_readPlain
    (hstart : StartsToken (c :: cs)) (hboundary : isWordBoundary c = false)
    (source : List Char) : (readPlain (c :: cs)).1.FormOf source := by
  rcases readPlain_eq_or_isOperator (c :: cs) with hread | hoperator
  · rw [hread]
    exact Word.formOf_toKind (text_ne_nil_of_readWord hstart hboundary)
      exists_isGlobChar_of_readWord source
  · exact Kind.formOf_of_isOperator hoperator source

/-- A token takes one of the forms that can be read from its text. -/
theorem formOf_readToken (hstart : StartsToken (c :: cs)) (glued : Bool) :
    (readToken glued c cs).1.FormOf (c :: cs) := by
  have hread := readBy_readToken glued c
  generalize readToken glued c = read at hread
  cases hread with
  | comment _ => exact formOf_readComment cs _
  | ampersand => exact Kind.formOf_of_isOperator (isOperator_readAmpersand cs) _
  | pipe => exact Kind.formOf_of_isOperator (isOperator_readPipe cs) _
  | semicolon => exact Kind.formOf_of_isOperator (isOperator_readSemicolon cs) _
  | openParen => trivial
  | closeParen => trivial
  | output => exact Kind.formOf_of_isOperator (isOperator_readOutput none cs) _
  | input => exact Kind.formOf_of_isOperator (isOperator_readInput none cs) _
  | dollar => exact formOf_readDollar cs
  | backticks => trivial
  | singleQuoted =>
      change '\'' ∉ (String.ofList _).toList
      rw [String.toList_ofList]
      exact notMem_readSingleQuoted cs
  | doubleQuoted =>
      refine ⟨areParts_readDoubleQuoted cs, fun hempty => ?_⟩
      exact ((isParameterName_of_mem hempty).2 rfl).trans (List.suffix_cons _ _).isInfix
  | plain hform _ =>
      have hboundary := isWordBoundary_eq_false_iff.mpr ⟨hstart.isSeparator, hform⟩
      exact formOf_readPlain hstart hboundary _

/-! ## A `#` and the token before it -/

/-- Only where no fragment ends does a `#` open a comment. -/
theorem eq_false_of_readToken_comment
    {text : String} (h : (readToken glued c cs).1 = .comment text) : glued = false := by
  rcases isFragment_or_isOperator_of_readToken glued c cs with hfragment | hoperator | hglued
  · rw [h] at hfragment
    cases hfragment
  · rw [h] at hoperator
    cases hoperator
  · exact hglued

theorem eq_true_of_readToken_hash (h : (readToken glued '#' cs).1.isFragment = true) :
    glued = true := by
  cases glued with
  | true => rfl
  | false => cases h

/-- No token ends where the first one begins. -/
theorem Tiles.not_touches_head
    {t u : Token} (h : Tiles pos cs (t :: ts)) (hu : u ∈ t :: ts) : ¬u.span.Touches t.span := by
  have htlong := h.start_lt_stop List.mem_cons_self
  have hulong := h.start_lt_stop hu
  simp only [Span.Touches]
  rcases List.mem_cons.mp hu with rfl | hlater
  · omega
  · have hbehind := (List.pairwise_cons.mp h.pairwise).1 u hlater
    omega

/-- Where a token is read in a text, and whether a fragment ends there. -/
theorem Reads.exists_glued
    (h : Reads pos glued cs ts) {t : Token} (ht : t ∈ ts) :
    ∃ front glued' c text back, cs = front ++ c :: text ++ back ∧
      t.span = ⟨pos + Text.byteLength front,
        pos + Text.byteLength front + Text.byteLength (c :: text)⟩ ∧
      StartsToken (c :: (text ++ back)) ∧
      readToken glued' c (text ++ back) = (t.kind, back) ∧
      (glued' = true ↔ glued = true ∧ t.span.start = pos ∨
        ∃ u ∈ ts, u.kind.isFragment = true ∧ u.span.Touches t.span) := by
  induction h with
  | done _ => cases ht
  | @token pos glued gap c text rest kind ts hgap hstart hread hrest ih =>
      have htiles := (Reads.token hgap hstart hread hrest).tiles
      rcases List.mem_cons.mp ht with rfl | hlater
      · refine ⟨gap, glued && gap.isEmpty, c, text, rest, by simp, rfl, hstart, hread, ?_⟩
        have hnone : ¬∃ u ∈ _ :: ts, u.kind.isFragment = true ∧ u.span.Touches _ :=
          fun ⟨u, hu, _, htouches⟩ => htiles.not_touches_head hu htouches
        rw [or_iff_left hnone, Bool.and_eq_true, ← start_beq_pos pos gap, beq_iff_eq]
      · obtain ⟨front, glued', d, piece, back, hcs, hspan, hbegin, htoken, hglued⟩ := ih hlater
        refine ⟨gap ++ c :: text ++ front, glued', d, piece, back, by simp [hcs], ?_, hbegin,
          htoken, ?_⟩
        · rw [hspan]
          simp only [Text.byteLength_append, Nat.add_assoc]
        · have hbehind : ¬(glued = true ∧ t.span.start = pos) := by
            rintro ⟨-, hfirst⟩
            have hle := hrest.tiles.le_start hlater
            have hsize := c.utf8Size_pos
            simp only [Text.byteLength_cons] at hle
            omega
          rw [hglued, or_iff_right hbehind, List.exists_mem_cons_iff]
          exact or_congr_left (and_congr_right fun _ => eq_comm)

/-! ## All tokens -/

/-- The tokens of a line take the forms that can be read from their text.  No fragment ends
where a comment begins, and where a fragment begins with a `#` one does. -/
theorem tokens_formOf (line : String) (t : Token) (ht : t ∈ tokens line) :
    t.kind.FormOf (t.span.slice line).toList ∧
      (∀ text, t.kind = .comment text →
        ∀ u ∈ tokens line, u.kind.isFragment = true → ¬u.span.Touches t.span) ∧
      (t.kind.isFragment = true → (t.span.slice line).toList.head? = some '#' →
        ∃ u ∈ tokens line, u.kind.isFragment = true ∧ u.span.Touches t.span) := by
  obtain ⟨front, glued, c, text, back, hline, hspan, hstart, hread, hglued⟩ :=
    (reads_readTokens 0 false line.toList).exists_glued ht
  rw [Nat.zero_add] at hspan
  have hglued : glued = true ↔
      ∃ u ∈ tokens line, u.kind.isFragment = true ∧ u.span.Touches t.span :=
    hglued.trans (or_iff_right fun h => Bool.false_ne_true h.1)
  have hslice : (t.span.slice line).toList = c :: text := by
    rw [hspan, Span.slice_eq hline, String.toList_ofList]
  have halone : (readToken glued c text).1 = t.kind :=
    congrArg Prod.fst (readToken_alone hstart.isSeparator hread)
  rw [hslice]
  refine ⟨?_, ?_, ?_⟩
  · rw [← halone]
    exact formOf_readToken hstart.alone glued
  · intro content hkind u hu hfragment htouches
    have hfalse := eq_false_of_readToken_comment (halone.trans hkind)
    rw [hglued.mpr ⟨u, hu, hfragment, htouches⟩] at hfalse
    cases hfalse
  · intro hfragment hhash
    obtain rfl := Option.some.inj hhash
    rw [← halone] at hfragment
    exact hglued.mp (eq_true_of_readToken_hash hfragment)

/-- A parameter without a name in braces, beside literals in double quotes, and behind it a word
that starts with a `#`; behind the gap the same character opens a comment. -/
theorem tokens_formOf_nameless :
    let line := "\"a$\x7b?\x7d\"#*\\# #b"
    (tokens line).map (fun t => t.kind) =
        [.fragment (.doubleQuoted [.literal "a", .parameter ""]), .fragment (.glob "#*#"),
          .comment "b"] ∧
      (Kind.fragment (.doubleQuoted [.literal "a", .parameter ""])).FormOf
        ['"', 'a', '$', '\x7b', '?', '\x7d', '"'] ∧
      ∃ u ∈ tokens line, u.kind.isFragment = true ∧ u.span.Touches ⟨7, 11⟩ := by
  intro line
  let quoted : Token :=
    ⟨.fragment (.doubleQuoted [.literal "a", .parameter ""]), ⟨0, 7⟩⟩
  let glob : Token := ⟨.fragment (.glob "#*#"), ⟨7, 11⟩⟩
  have hquoted : quoted ∈ tokens line := by decide +kernel
  have hglob : glob ∈ tokens line := by decide +kernel
  have hslice : (quoted.span.slice line).toList =
      ['"', 'a', '$', '\x7b', '?', '\x7d', '"'] := by decide +kernel
  refine ⟨by decide +kernel, ?_, ?_⟩
  · rw [← hslice]
    exact (tokens_formOf line quoted hquoted).1
  · exact (tokens_formOf line glob hglob).2.2 rfl (by decide +kernel)

end Command
end MetricsScript
