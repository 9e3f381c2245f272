import Mathlib.Data.List.Basic
import Mathlib.Data.List.TakeWhile
import MetricsScript.Proofs.Command.Reading

/-!
# Blanks behind expansions, quoted text and words

What is finished at the end of a text is read the same when blanks come behind the text.  A body
or a quoted text without an end takes all of these blanks, and a backslash at the very end takes
the first one.
-/

namespace MetricsScript
namespace Command

/-- The white space that can stand inside a line: space, tab and carriage return. -/
def isLineBlank (c : Char) : Bool :=
  c == ' ' || c == '\t' || c == '\r'

/-- Some white space behind a text. -/
structure IsBlanks (blanks : List Char) : Prop where
  ne_nil : blanks ≠ []
  all : ∀ c ∈ blanks, isLineBlank c = true

/-- An unquoted text ends in a backslash that escapes nothing. -/
def endsEscaping : List Char → Bool
  | [] => false
  | ['\\'] => true
  | '\\' :: _ :: cs => endsEscaping cs
  | _ :: cs => endsEscaping cs

/-- A text behind a double quote in which no quote closes it, and whose last expansion, if it
stands at the end, is finished. -/
inductive QuotedOpen : List Char → Prop
  | nil : QuotedOpen []
  | escape {c : Char} {cs : List Char} :
      isQuotedEscape c = true → QuotedOpen cs → QuotedOpen ('\\' :: c :: cs)
  | slash {cs : List Char} :
      (∀ c ∈ cs.head?, isQuotedEscape c = false) → QuotedOpen cs → QuotedOpen ('\\' :: cs)
  | char {c : Char} {cs : List Char} :
      isQuotedEscape c = false → QuotedOpen cs → QuotedOpen (c :: cs)
  | dollar {cs : List Char} : readExpansion cs = none → QuotedOpen cs → QuotedOpen ('$' :: cs)
  | expansion {cs after : List Char} {e : Expansion} :
      readExpansion cs = some (e, after) →
      (after = [] → readExpansion (cs ++ [' ']) = some (e, [' '])) →
      QuotedOpen after → QuotedOpen ('$' :: cs)

/-- What a word becomes that takes some of the blanks behind its text: another one exactly if a
backslash escapes the first of them. -/
structure Word.Becomes (w : Word) (escaping : Bool) (next : Word) : Prop where
  glob : next.glob = w.glob
  text : next.text = w.text ↔ escaping = false

/-! ## Blanks -/

theorem isLineBlank_iff {c : Char} :
    isLineBlank c = true ↔ c = ' ' ∨ c = '\t' ∨ c = '\r' := by
  simp [isLineBlank, or_assoc]

theorem isSeparator_of_isLineBlank {c : Char} (h : isLineBlank c = true) :
    isSeparator c = true := by
  rcases isLineBlank_iff.mp h with rfl | rfl | rfl <;> decide

theorem isWordBoundary_of_isLineBlank {c : Char} (h : isLineBlank c = true) :
    isWordBoundary c = true :=
  isWordBoundary_iff.mpr (Or.inl (isSeparator_of_isLineBlank h))

theorem isGap_of_forall_isLineBlank {cs : List Char} (h : ∀ c ∈ cs, isLineBlank c = true) :
    IsGap cs :=
  isGap_of_forall_isSeparator fun c hc => isSeparator_of_isLineBlank (h c hc)

theorem readWord_of_forall_isLineBlank {cs : List Char} (h : ∀ c ∈ cs, isLineBlank c = true) :
    readWord cs = (⟨[], false⟩, cs) :=
  readWord_of_isWordBoundary fun c hc =>
    isWordBoundary_of_isLineBlank (h c (List.mem_of_head? hc))

section
variable {blanks : List Char}

theorem isBlanks_space : IsBlanks [' '] where
  ne_nil := List.cons_ne_nil _ _
  all := by simp [isLineBlank]

theorem IsBlanks.exists_cons (h : IsBlanks blanks) :
    ∃ b bs, blanks = b :: bs ∧ isLineBlank b = true ∧ ∀ c ∈ bs, isLineBlank c = true := by
  obtain ⟨b, bs, rfl⟩ := List.exists_cons_of_ne_nil h.ne_nil
  exact ⟨b, bs, rfl, h.all b List.mem_cons_self,
    fun c hc => h.all c (List.mem_cons_of_mem b hc)⟩

theorem IsBlanks.head_eq (h : IsBlanks blanks) {c : Char} (hc : c ∈ blanks.head?) :
    c = ' ' ∨ c = '\t' ∨ c = '\r' :=
  isLineBlank_iff.mp (h.all c (List.mem_of_head? hc))

theorem IsBlanks.ne_cons (h : IsBlanks blanks) {x : Char} (hx : isLineBlank x = false)
    (r : List Char) : blanks ≠ x :: r := by
  rintro rfl
  have := h.all x List.mem_cons_self
  rw [hx] at this
  cases this

/-- A reader that leaves some of what comes behind a text leaves a piece of it. -/
theorem append_eq_cases
    {xs ys text rest : List Char} (h : xs ++ ys = text ++ rest) :
    (∃ more, text = xs ++ more ∧ ys = more ++ rest) ∨
      ∃ x more, xs = text ++ x :: more ∧ rest = x :: (more ++ ys) := by
  rcases List.append_eq_append_iff.mp h with ⟨more, htext, hys⟩ | ⟨more, hxs, hrest⟩
  · exact Or.inl ⟨more, htext, hys⟩
  · cases more with
    | nil => exact Or.inl ⟨[], by simpa using hxs.symm, by simpa using hrest.symm⟩
    | cons x more => exact Or.inr ⟨x, more, hxs, hrest⟩

/-! ## Expansions -/

/-- A body that leaves something ends in the bracket that closes it. -/
theorem exists_closing_of_readBody
    (b : Brackets) (depth : Nat) (q : Quoting) (cs : List Char)
    (h : (readBody b depth q cs).2 ≠ []) :
    ∃ front, cs = front ++ b.closing :: (readBody b depth q cs).2 := by
  rcases closedOrWhole_readBody b depth q cs with hclosed | hwhole
  · exact ⟨_, hclosed⟩
  · rw [hwhole] at h
    exact absurd rfl h

/-- A body that runs to the end of the text ends there before anything, or else it takes all
blanks that come behind it. -/
theorem readBody_ends_or_runs_on
    {b : Brackets} {depth : Nat} {q : Quoting} {cs : List Char}
    (hclosing : isLineBlank b.closing = false) (h : (readBody b depth q cs).2 = []) :
    (∀ next, readBody b depth q (cs ++ next) = ((readBody b depth q cs).1, next)) ∨
      ∀ blanks, IsBlanks blanks → (readBody b depth q (cs ++ blanks)).2 = [] := by
  by_cases hall : ∀ blanks, IsBlanks blanks → (readBody b depth q (cs ++ blanks)).2 = []
  · exact Or.inr hall
  left
  obtain ⟨blanks, hnot⟩ := Classical.not_forall.mp hall
  obtain ⟨hblanks, hne⟩ := Classical.not_imp.mp hnot
  obtain ⟨front, hfront⟩ := exists_closing_of_readBody b depth q _ hne
  obtain ⟨text, htext, hnext⟩ := readBody_delimited b depth q (cs ++ blanks)
  replace hnext := hnext hne
  clear hne
  generalize readBody b depth q (cs ++ blanks) = read at hfront htext hnext
  obtain ⟨body, rest⟩ := read
  simp only at hfront htext hnext
  obtain rfl : text = front ++ [b.closing] := by
    rw [htext, List.append_cons] at hfront
    exact List.append_cancel_right hfront
  rcases append_eq_cases htext with ⟨more, hmore, rfl⟩ | ⟨x, more, rfl, rfl⟩
  · have hnil : more = [] := by
      -- The bracket that closes the body would stand among the blanks.
      by_contra hmorene
      have hlast : more.getLast? = some b.closing := by
        rw [← List.getLast?_append_of_ne_nil cs hmorene, ← hmore, List.getLast?_concat]
      have hblank := hblanks.all _ (List.mem_append_left rest (List.mem_of_getLast? hlast))
      rw [hclosing] at hblank
      cases hblank
    rw [hnil, List.append_nil] at hmore
    rw [hmore] at hnext
    have hself := hnext []
    rw [List.append_nil] at hself
    intro next
    rw [hnext, hself]
  · rw [hnext] at h
    cases h

/-- What blanks behind a text do to an expansion that runs to the end of that text: nothing, or
the expansion takes all of them. -/
def ExpansionAtEnd (cs : List Char) (e : Expansion) : Prop :=
  (∀ blanks, IsBlanks blanks → readExpansion (cs ++ blanks) = some (e, blanks)) ∨
    ∀ blanks, IsBlanks blanks → ∃ next, readExpansion (cs ++ blanks) = some (next, [])

theorem expansionAtEnd_of_body
    (b : Brackets) (make : List Char → Expansion) {c : Char} {cs : List Char} {e : Expansion}
    (hclosing : isLineBlank b.closing = false)
    (hread : ∀ ds, readExpansion (c :: ds) =
      some (make (readBody b 0 .bare ds).1, (readBody b 0 .bare ds).2))
    (h : readExpansion (c :: cs) = some (e, [])) : ExpansionAtEnd (c :: cs) e := by
  rw [hread] at h
  obtain ⟨rfl, hrest⟩ := Prod.mk.inj (Option.some.inj h)
  refine (readBody_ends_or_runs_on hclosing hrest).imp ?_ ?_
  · intro hends blanks _
    rw [List.cons_append, hread, hends]
  · intro hruns blanks hblanks
    rw [List.cons_append, hread, hruns blanks hblanks]
    exact ⟨_, rfl⟩

/-- A name ends before blanks. -/
theorem expansionAtEnd_of_name
    {c : Char} {cs : List Char} {e : Expansion}
    (hread : ∀ ds, readExpansion (c :: ds) =
      some (.parameter ((c :: ds).takeWhile isNameChar), (c :: ds).dropWhile isNameChar))
    (h : readExpansion (c :: cs) = some (e, [])) : ExpansionAtEnd (c :: cs) e := by
  rw [hread] at h
  obtain ⟨rfl, hrest⟩ := Prod.mk.inj (Option.some.inj h)
  have hname : ∀ d ∈ c :: cs, isNameChar d = true := List.dropWhile_eq_nil_iff.mp hrest
  left
  intro blanks hblanks
  have hnext : ∀ b ∈ blanks.head?, isNameChar b = false := by
    intro b hb
    rcases hblanks.head_eq hb with rfl | rfl | rfl <;> decide
  obtain ⟨htake, hdrop⟩ := takeWhile_append_of_head hname hnext
  rw [List.takeWhile_eq_self_iff.mpr hname, List.cons_append, hread, ← List.cons_append, htake,
    hdrop]

theorem expansionAtEnd {cs : List Char} {e : Expansion} (h : readExpansion cs = some (e, [])) :
    ExpansionAtEnd cs e := by
  cases cs with
  | nil => cases h
  | cons c cs =>
      rcases readExpansion_cases c with ⟨-, hread⟩ | ⟨-, hread⟩ | ⟨-, hread⟩ | ⟨-, hread⟩ | hread
      · exact expansionAtEnd_of_body parentheses .substitution (by decide) hread h
      · exact expansionAtEnd_of_body braces (fun body => .parameter (body.takeWhile isNameChar))
          (by decide) hread h
      · rw [hread] at h
        obtain ⟨rfl, rfl⟩ := Prod.mk.inj (Option.some.inj h)
        exact Or.inl fun blanks _ => hread blanks
      · exact expansionAtEnd_of_name hread h
      · rw [hread] at h
        cases h

/-- Blanks open no expansion behind a `$` that stands alone. -/
theorem readExpansion_append_blanks_none
    {cs : List Char} (h : readExpansion cs = none) (hblanks : IsBlanks blanks) :
    readExpansion (cs ++ blanks) = none := by
  rw [readExpansion_eq_none_iff] at h ⊢
  intro c hc
  cases cs with
  | nil => rcases hblanks.head_eq hc with rfl | rfl | rfl <;> decide
  | cons d cs => exact h c hc

/-- An expansion that is finished stays the same before blanks. -/
theorem readExpansion_append_blanks_some
    {cs after : List Char} {e : Expansion} (h : readExpansion cs = some (e, after))
    (hend : after = [] → readExpansion (cs ++ [' ']) = some (e, [' ']))
    (hblanks : IsBlanks blanks) :
    readExpansion (cs ++ blanks) = some (e, after ++ blanks) := by
  cases after with
  | nil =>
      rcases expansionAtEnd h with hends | hruns
      · exact hends blanks hblanks
      · obtain ⟨next, hnext⟩ := hruns [' '] isBlanks_space
        rw [hend rfl] at hnext
        cases hnext
  | cons x after =>
      obtain ⟨text, rfl, hreplace⟩ := readExpansion_replace h
      rw [List.append_assoc]
      exact hreplace _ (Or.inl rfl)

/-! ## Quoted text -/

theorem readSingleQuoted_open {cs : List Char} (h : '\'' ∉ cs) :
    readSingleQuoted cs = (cs, []) := by
  have hall : ∀ c ∈ cs, (c != '\'') = true := by
    intro c hc
    simp only [bne_iff_ne, ne_eq]
    rintro rfl
    exact h hc
  simp [readSingleQuoted, List.takeWhile_eq_self_iff.mpr hall,
    List.dropWhile_eq_nil_iff.mpr hall]

theorem readSingleQuoted_append_blanks_closed
    {cs : List Char} (hquote : '\'' ∈ cs) (h : (readSingleQuoted cs).2 = []) :
    readSingleQuoted (cs ++ blanks) = ((readSingleQuoted cs).1, blanks) := by
  obtain ⟨text, rest, rfl, htext⟩ := List.eq_append_cons_of_mem hquote
  rw [readSingleQuoted_append htext] at h ⊢
  obtain rfl : rest = [] := h
  rw [List.append_assoc, List.cons_append, List.nil_append, readSingleQuoted_append htext]

/-- Quoted text that is left open takes the blanks behind it. -/
theorem QuotedOpen.readDoubleQuoted_append
    {cs : List Char} (h : QuotedOpen cs) (hblanks : IsBlanks blanks) :
    readDoubleQuoted (cs ++ blanks) =
      ((readDoubleQuoted cs).1 ++ blanks.map .char, []) := by
  have hescape : ∀ c ∈ blanks, isQuotedEscape c = false := by
    intro c hc
    rcases isLineBlank_iff.mp (hblanks.all c hc) with rfl | rfl | rfl <;> decide
  induction h with
  | nil =>
      have hread := readDoubleQuoted_escapeQuoted blanks []
      rw [escapeQuoted_eq_self hescape, List.append_nil] at hread
      rw [List.nil_append, hread]
      simp
  | escape hc _ ih =>
      rw [List.cons_append, List.cons_append, readDoubleQuoted_escape hc,
        readDoubleQuoted_escape hc, ih]
      rfl
  | @slash cs hhead _ ih =>
      have hhead' : ∀ c ∈ (cs ++ blanks).head?, isQuotedEscape c = false := by
        intro c hc
        cases cs with
        | nil => exact hescape c (List.mem_of_head? hc)
        | cons d cs => exact hhead c hc
      rw [List.cons_append, readDoubleQuoted_slash_of_head hhead,
        readDoubleQuoted_slash_of_head hhead', ih]
      rfl
  | @char c cs hc _ ih =>
      have hplain : c ≠ '"' ∧ c ≠ '\\' ∧ c ≠ '$' := by
        simpa [isQuotedEscape, and_assoc] using hc
      rw [List.cons_append, readDoubleQuoted_char hplain.2.1 hplain.1 hplain.2.2,
        readDoubleQuoted_char hplain.2.1 hplain.1 hplain.2.2, ih]
      rfl
  | dollar hnone _ ih =>
      rw [List.cons_append, readDoubleQuoted_dollar hnone,
        readDoubleQuoted_dollar (readExpansion_append_blanks_none hnone hblanks), ih]
      rfl
  | expansion hread hend _ ih =>
      rw [List.cons_append, readDoubleQuoted_expansion hread,
        readDoubleQuoted_expansion (readExpansion_append_blanks_some hread hend hblanks), ih]
      rfl

/-- The literal characters of double-quoted text. -/
def quotedLiteral (cs : List Char) : List Char :=
  (readDoubleQuoted cs).1.flatMap QuotedPiece.literal

theorem quotedLiteral_cons
    {cs next : List Char} {piece : QuotedPiece}
    (h : readDoubleQuoted cs = (piece :: (readDoubleQuoted next).1, (readDoubleQuoted next).2)) :
    quotedLiteral cs = piece.literal ++ quotedLiteral next := by
  rw [quotedLiteral, h, List.flatMap_cons, quotedLiteral]

/-- Quoted text that is not left open keeps its literal characters before blanks. -/
theorem quotedOpen_or_quotedLiteral_append
    {cs : List Char} (h : (readDoubleQuoted cs).2 = []) (hblanks : IsBlanks blanks) :
    QuotedOpen cs ∨ quotedLiteral (cs ++ blanks) = quotedLiteral cs := by
  fun_induction readDoubleQuoted cs with
  | case1 => exact Or.inl .nil
  | case2 c cs hc pieces rest hread ih =>
      rw [hread] at ih
      refine (ih h).imp (.escape hc) fun hsame => ?_
      rw [List.cons_append, List.cons_append, quotedLiteral_cons (readDoubleQuoted_escape hc),
        quotedLiteral_cons (readDoubleQuoted_escape hc), hsame]
  | case3 c cs hc pieces rest hread ih =>
      rw [hread] at ih
      have hc : isQuotedEscape c = false := by simpa using hc
      refine (ih h).imp (.slash ?_) fun hsame => ?_
      · intro d hd
        obtain rfl := Option.some.inj hd
        exact hc
      · rw [List.cons_append, List.cons_append, quotedLiteral_cons (readDoubleQuoted_slash hc),
          quotedLiteral_cons (readDoubleQuoted_slash hc), ← List.cons_append, hsame]
  | case4 cs =>
      right
      rw [quotedLiteral, List.cons_append, readDoubleQuoted_close, quotedLiteral,
        readDoubleQuoted_close]
  | case5 cs e after hexpansion _ pieces rest hread _ _ ih =>
      rw [hread] at ih
      cases after with
      | nil =>
          rcases expansionAtEnd hexpansion with hends | hruns
          · exact Or.inl (.expansion hexpansion (fun _ => hends [' '] isBlanks_space) .nil)
          · right
            obtain ⟨next, hnext⟩ := hruns blanks hblanks
            rw [List.cons_append, quotedLiteral_cons (readDoubleQuoted_expansion hnext),
              quotedLiteral_cons (readDoubleQuoted_expansion hexpansion)]
            rfl
      | cons x after =>
          have hend : x :: after = [] → readExpansion (cs ++ [' ']) = some (e, [' ']) := by
            intro hnil
            cases hnil
          refine (ih h).imp (.expansion hexpansion hend) fun hsame => ?_
          have hnext := readExpansion_append_blanks_some hexpansion hend hblanks
          rw [List.cons_append, quotedLiteral_cons (readDoubleQuoted_expansion hnext),
            quotedLiteral_cons (readDoubleQuoted_expansion hexpansion), hsame]
  | case6 cs hnone pieces rest hread _ _ ih =>
      rw [hread] at ih
      refine (ih h).imp (.dollar hnone) fun hsame => ?_
      have hnext := readExpansion_append_blanks_none hnone hblanks
      rw [List.cons_append, quotedLiteral_cons (readDoubleQuoted_dollar hnext),
        quotedLiteral_cons (readDoubleQuoted_dollar hnone), hsame]
  | case7 c cs hnot hquote hdollar pieces rest hread ih =>
      rw [hread] at ih
      by_cases hslash : c = '\\'
      · subst hslash
        cases cs with
        | nil => exact Or.inl (.slash (by simp) .nil)
        | cons d cs => exact (hnot d cs rfl rfl).elim
      · have hc : isQuotedEscape c = false := by simp [isQuotedEscape, hslash, hquote, hdollar]
        refine (ih h).imp (.char hc) fun hsame => ?_
        rw [List.cons_append, quotedLiteral_cons (readDoubleQuoted_char hslash hquote hdollar),
          quotedLiteral_cons (readDoubleQuoted_char hslash hquote hdollar), hsame]

/-! ## Words -/

theorem endsEscaping_cons {c : Char} (h : c ≠ '\\') (cs : List Char) :
    endsEscaping (c :: cs) = endsEscaping cs := by
  simp [endsEscaping, h]

/-- Blanks behind an escaped character make no line continuation of it. -/
theorem readWord_escape_append
    {c : Char} {cs : List Char} (hfeed : c ≠ '\n') (hreturn : ∀ r, c = '\r' → cs ≠ '\n' :: r)
    (hblanks : IsBlanks blanks) :
    readWord ('\\' :: c :: (cs ++ blanks)) =
      ((readWord (cs ++ blanks)).1.cons c, (readWord (cs ++ blanks)).2) := by
  refine readWord_escape hfeed fun r hc => ?_
  cases cs with
  | nil => exact hblanks.ne_cons (by decide) r
  | cons d cs =>
      intro heq
      obtain ⟨rfl, -⟩ := List.cons.inj heq
      exact hreturn cs hc rfl

theorem Word.Becomes.cons {w next : Word} {escaping : Bool} (h : w.Becomes escaping next)
    (c : Char) : (w.cons c).Becomes escaping (next.cons c) where
  glob := h.glob
  text := by
    rw [← h.text]
    simp [Word.cons]

theorem Word.Becomes.consPlain {w next : Word} {escaping : Bool} (h : w.Becomes escaping next)
    (c : Char) : (w.consPlain c).Becomes escaping (next.consPlain c) where
  glob := by simp [Word.consPlain, h.glob]
  text := by
    rw [← h.text]
    simp [Word.consPlain]

/-- Behind a word of the whole text blanks are left, all of them or all but the first one. -/
theorem readWord_append_blanks
    {cs : List Char} (h : (readWord cs).2 = []) (hblanks : IsBlanks blanks) :
    (readWord cs).1.Becomes (endsEscaping cs) (readWord (cs ++ blanks)).1 ∧
      ∀ c ∈ (readWord (cs ++ blanks)).2, isLineBlank c = true := by
  fun_induction readWord cs with
  | case1 =>
      rw [List.nil_append, readWord_of_forall_isLineBlank hblanks.all]
      exact ⟨⟨rfl, by simp [endsEscaping]⟩, hblanks.all⟩
  | case2 cs ih => exact ih h
  | case3 cs ih => exact ih h
  | case4 c cs hfeed hreturn word rest hread ih =>
      rw [hread] at ih
      obtain ⟨hword, hrest⟩ := ih h
      rw [List.cons_append, List.cons_append, readWord_escape_append hfeed hreturn hblanks]
      exact ⟨hword.cons c, hrest⟩
  | case5 c cs => cases h
  | case6 c cs _ _ hnot hboundary word rest hread ih =>
      by_cases hslash : c = '\\'
      · subst hslash
        cases cs with
        | nil =>
            obtain ⟨rfl, rfl⟩ := Prod.mk.inj hread
            obtain ⟨b, bs, rfl, hb, hbs⟩ := hblanks.exists_cons
            have hfeed : b ≠ '\n' := by
              rintro rfl
              exact absurd hb (by decide)
            have hreturn : ∀ r, b = '\r' → bs ≠ '\n' :: r := by
              rintro r - rfl
              exact absurd (hbs '\n' List.mem_cons_self) (by decide)
            have hne : b ≠ '\\' := by
              rintro rfl
              exact absurd hb (by decide)
            rw [List.cons_append, List.nil_append, readWord_escape hfeed hreturn,
              readWord_of_forall_isLineBlank hbs]
            exact ⟨⟨rfl, by simp [Word.cons, Word.consPlain, endsEscaping, hne]⟩, hbs⟩
        | cons d cs => exact (hnot d cs rfl rfl).elim
      · rw [hread] at ih
        obtain ⟨hword, hrest⟩ := ih h
        rw [List.cons_append, readWord_plain hslash (by simpa using hboundary),
          endsEscaping_cons hslash]
        exact ⟨hword.consPlain c, hrest⟩

end

end Command
end MetricsScript
