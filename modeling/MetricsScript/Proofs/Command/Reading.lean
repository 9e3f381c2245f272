import MetricsScript.Proofs.Command.TokenLookahead

/-!
# The tokens of a line as a derivation

A line is a gap, a token, and the rest of the line, which is read in the same way; at the end
stands a last gap.  `Reads` says so as a relation.  It holds of exactly what the function
`readTokens` gives, so that facts about tokens are proved by induction on a derivation.
-/

namespace MetricsScript
namespace Command

/-- What can stand between tokens: separators, and backslashes that join lines. -/
inductive IsGap : List Char → Prop
  | nil : IsGap []
  | separator {c : Char} {cs : List Char} :
      isSeparator c = true → IsGap cs → IsGap (c :: cs)
  | lineFeed {cs : List Char} : IsGap cs → IsGap ('\\' :: '\n' :: cs)
  | returnLineFeed {cs : List Char} : IsGap cs → IsGap ('\\' :: '\r' :: '\n' :: cs)

/-- The character before `back` separates tokens, or is a backslash that joins two lines. -/
def IsGapChar (c : Char) (back : List Char) : Prop :=
  isSeparator c = true ∨
    c = '\\' ∧ ∃ r, back = '\n' :: r ∨ back = '\r' :: '\n' :: r

/-- No gap stands at the front of the text. -/
def StartsToken (cs : List Char) : Prop :=
  skipBlanks cs = cs

/-- The tokens of a text that begins at offset `pos`.  The Boolean says that a fragment ends
there. -/
inductive Reads : Nat → Bool → List Char → List Token → Prop
  | done {pos : Nat} {glued : Bool} {gap : List Char} : IsGap gap → Reads pos glued gap []
  | token {pos : Nat} {glued : Bool} {gap : List Char} {c : Char} {text rest : List Char}
      {kind : Kind} {ts : List Token} :
      IsGap gap →
      StartsToken (c :: (text ++ rest)) →
      readToken (glued && gap.isEmpty) c (text ++ rest) = (kind, rest) →
      Reads (pos + Text.byteLength gap + Text.byteLength (c :: text)) kind.isFragment rest ts →
      Reads pos glued (gap ++ c :: (text ++ rest))
        (⟨kind, ⟨pos + Text.byteLength gap,
          pos + Text.byteLength gap + Text.byteLength (c :: text)⟩⟩ :: ts)

/-! ## Gaps -/

theorem skipBlanks_separator {c : Char} (h : isSeparator c = true) (cs : List Char) :
    skipBlanks (c :: cs) = skipBlanks cs := by
  generalize hx : c :: cs = x
  fun_cases skipBlanks x with
  | case1 => cases hx
  | case2 ds =>
      obtain ⟨rfl, -⟩ := List.cons.inj hx
      exact absurd h (by decide)
  | case3 ds =>
      obtain ⟨rfl, -⟩ := List.cons.inj hx
      exact absurd h (by decide)
  | case4 d ds =>
      obtain ⟨rfl, rfl⟩ := List.cons.inj hx
      rfl
  | case5 d ds _ _ hd =>
      obtain ⟨rfl, rfl⟩ := List.cons.inj hx
      exact absurd h hd

/-- A gap is skipped as a whole. -/
theorem IsGap.skipBlanks_append {gap : List Char} (h : IsGap gap) (cs : List Char) :
    skipBlanks (gap ++ cs) = skipBlanks cs := by
  induction h with
  | nil => rfl
  | separator hc _ ih =>
      rw [List.cons_append, skipBlanks_separator hc]
      exact ih
  | lineFeed _ ih => exact ih
  | returnLineFeed _ ih => exact ih

/-- What is skipped is a gap. -/
theorem exists_isGap (cs : List Char) : ∃ gap, IsGap gap ∧ cs = gap ++ skipBlanks cs := by
  fun_induction skipBlanks cs with
  | case1 => exact ⟨[], .nil, rfl⟩
  | case2 cs ih =>
      obtain ⟨gap, hgap, hcs⟩ := ih
      exact ⟨_, .lineFeed hgap, by rw [List.cons_append, List.cons_append, ← hcs]⟩
  | case3 cs ih =>
      obtain ⟨gap, hgap, hcs⟩ := ih
      exact ⟨_, .returnLineFeed hgap, by
        rw [List.cons_append, List.cons_append, List.cons_append, ← hcs]⟩
  | case4 c cs _ _ hc ih =>
      obtain ⟨gap, hgap, hcs⟩ := ih
      exact ⟨_, .separator hc hgap, by rw [List.cons_append, ← hcs]⟩
  | case5 c cs => exact ⟨[], .nil, rfl⟩

theorem IsGap.append {gap more : List Char} (h : IsGap gap) (hmore : IsGap more) :
    IsGap (gap ++ more) := by
  induction h with
  | nil => exact hmore
  | separator hc _ ih => exact .separator hc ih
  | lineFeed _ ih => exact .lineFeed ih
  | returnLineFeed _ ih => exact .returnLineFeed ih

theorem isGap_of_forall_isSeparator {gap : List Char} (h : ∀ c ∈ gap, isSeparator c = true) :
    IsGap gap := by
  induction gap with
  | nil => exact .nil
  | cons c gap ih =>
      exact .separator (h c List.mem_cons_self)
        (ih fun d hd => h d (List.mem_cons_of_mem c hd))

/-- Nothing is skipped twice. -/
theorem startsToken_skipBlanks (cs : List Char) : StartsToken (skipBlanks cs) := by
  obtain ⟨gap, hgap, hcs⟩ := exists_isGap cs
  have := hgap.skipBlanks_append (skipBlanks cs)
  rw [← hcs] at this
  exact this.symm

theorem isGap_of_skipBlanks {cs : List Char} (h : skipBlanks cs = []) : IsGap cs := by
  obtain ⟨gap, hgap, hcs⟩ := exists_isGap cs
  rw [h, List.append_nil] at hcs
  exact hcs ▸ hgap

theorem StartsToken.isSeparator {c : Char} {cs : List Char} (h : StartsToken (c :: cs)) :
    isSeparator c = false :=
  isSeparator_of_skipBlanks h

/-- A gap in front of a token is all that is skipped. -/
theorem IsGap.skipBlanks_token
    {gap cs : List Char} (h : IsGap gap) (hcs : StartsToken cs) :
    skipBlanks (gap ++ cs) = cs :=
  (h.skipBlanks_append cs).trans hcs

/-- A token starts wherever no character of a gap stands. -/
theorem startsToken_cons_iff {c : Char} {cs : List Char} :
    StartsToken (c :: cs) ↔ ¬IsGapChar c cs := by
  constructor
  · rintro h (hc | ⟨rfl, r, rfl | rfl⟩)
    · rw [h.isSeparator] at hc
      cases hc
    · have hlength := skipBlanks_le r
      have heq : skipBlanks r = '\\' :: '\n' :: r := h
      rw [heq] at hlength
      simp only [List.length_cons] at hlength
      omega
    · have hlength := skipBlanks_le r
      have heq : skipBlanks r = '\\' :: '\r' :: '\n' :: r := h
      rw [heq] at hlength
      simp only [List.length_cons] at hlength
      omega
  · intro h
    unfold StartsToken
    generalize hx : c :: cs = x
    fun_cases skipBlanks x with
    | case1 => cases hx
    | case2 ds =>
        obtain ⟨rfl, rfl⟩ := List.cons.inj hx
        exact absurd (Or.inr ⟨rfl, ds, Or.inl rfl⟩) h
    | case3 ds =>
        obtain ⟨rfl, rfl⟩ := List.cons.inj hx
        exact absurd (Or.inr ⟨rfl, ds, Or.inr rfl⟩) h
    | case4 d ds _ _ hd =>
        obtain ⟨rfl, rfl⟩ := List.cons.inj hx
        exact absurd (Or.inl hd) h
    | case5 d ds => rfl

theorem startsToken_of_not_separator
    {c : Char} {cs : List Char} (hseparator : isSeparator c = false)
    (hslash : c ≠ '\\') : StartsToken (c :: cs) := by
  rw [startsToken_cons_iff]
  rintro (hc | ⟨rfl, -⟩)
  · rw [hseparator] at hc
    cases hc
  · exact hslash rfl

/-! ## The derivation of what is read -/

theorem byteLength_pos {text : List Char} (h : text ≠ []) : 0 < Text.byteLength text :=
  Nat.pos_of_ne_zero fun hzero => h (Text.byteLength_eq_zero_iff.mp hzero)

theorem readTokens_of_isGap {pos : Nat} {glued : Bool} {gap : List Char} (h : IsGap gap) :
    readTokens pos glued gap = [] := by
  have hskip := h.skipBlanks_append []
  rw [List.append_nil, skipBlanks] at hskip
  rw [readTokens]
  split
  · rfl
  · next heq => simp [hskip] at heq

/-- A gap without width is empty. -/
theorem start_beq_pos (pos : Nat) (gap : List Char) :
    (pos + Text.byteLength gap == pos) = gap.isEmpty := by
  cases gap with
  | nil => simp
  | cons c gap =>
      have := c.utf8Size_pos
      simp only [Text.byteLength_cons, List.isEmpty_cons, beq_eq_false_iff_ne]
      omega

theorem readTokens_token
    (pos : Nat) (glued : Bool) {gap : List Char} {c : Char} {text rest : List Char}
    {kind : Kind} (hgap : IsGap gap) (hstart : StartsToken (c :: (text ++ rest)))
    (hread : readToken (glued && gap.isEmpty) c (text ++ rest) = (kind, rest)) :
    readTokens pos glued (gap ++ c :: (text ++ rest)) =
      ⟨kind, ⟨pos + Text.byteLength gap,
        pos + Text.byteLength gap + Text.byteLength (c :: text)⟩⟩ ::
      readTokens (pos + Text.byteLength gap + Text.byteLength (c :: text)) kind.isFragment
        rest := by
  have hskip := hgap.skipBlanks_token hstart
  rw [readTokens]
  split
  · next heq => simp [hskip] at heq
  · next d body heq =>
      rw [hskip] at heq
      obtain ⟨rfl, rfl⟩ := List.cons.inj heq
      have hgapwidth : Text.byteLength (gap ++ c :: (text ++ rest)) -
          Text.byteLength (c :: (text ++ rest)) = Text.byteLength gap := by
        simp only [Text.byteLength_append, Text.byteLength_cons]
        omega
      have htextwidth : Text.byteLength (c :: (text ++ rest)) - Text.byteLength rest =
          Text.byteLength (c :: text) := by
        simp only [Text.byteLength_append, Text.byteLength_cons]
        omega
      simp only [hgapwidth, start_beq_pos, hread, htextwidth]

/-- The derivations are those of the function that reads tokens. -/
theorem reads_iff {pos : Nat} {glued : Bool} {cs : List Char} {ts : List Token} :
    Reads pos glued cs ts ↔ readTokens pos glued cs = ts := by
  constructor
  · intro h
    induction h with
    | done hgap => exact readTokens_of_isGap hgap
    | token hgap hstart hread _ ih => rw [readTokens_token _ _ hgap hstart hread, ih]
  · rintro rfl
    induction hlength : cs.length using Nat.strongRecOn generalizing pos glued cs with
    | _ n ih =>
      subst hlength
      obtain ⟨gap, hgap, hcs⟩ := exists_isGap cs
      have hstart := startsToken_skipBlanks cs
      cases hskip : skipBlanks cs with
      | nil =>
          have hgap := isGap_of_skipBlanks hskip
          rw [readTokens_of_isGap hgap]
          exact .done hgap
      | cons c body =>
          rw [hskip] at hcs hstart
          obtain ⟨text, hbody, -⟩ :=
            readToken_replace (glued && gap.isEmpty) body hstart.isSeparator
          generalize hread : readToken (glued && gap.isEmpty) c body = read at hbody
          obtain ⟨kind, rest⟩ := read
          simp only at hbody
          subst hbody hcs
          rw [readTokens_token _ _ hgap hstart hread]
          exact .token hgap hstart hread (ih rest.length (by simp; omega) rfl)

theorem reads_readTokens (pos : Nat) (glued : Bool) (cs : List Char) :
    Reads pos glued cs (readTokens pos glued cs) :=
  reads_iff.mpr rfl

/-- Where a token stands in a text, and that it is read there. -/
theorem Reads.exists_read
    {pos : Nat} {glued : Bool} {cs : List Char} {ts : List Token} (h : Reads pos glued cs ts)
    {t : Token} (ht : t ∈ ts) :
    ∃ front glued' c text back, cs = front ++ c :: text ++ back ∧
      t.span = ⟨pos + Text.byteLength front,
        pos + Text.byteLength front + Text.byteLength (c :: text)⟩ ∧
      StartsToken (c :: (text ++ back)) ∧
      readToken glued' c (text ++ back) = (t.kind, back) := by
  induction h with
  | done _ => cases ht
  | @token pos glued gap c text rest kind ts _ hstart hread _ ih =>
      rcases List.mem_cons.mp ht with rfl | ht
      · exact ⟨gap, glued && gap.isEmpty, c, text, rest, by simp, rfl, hstart, hread⟩
      · obtain ⟨front, glued', d, piece, back, hrest, hspan, htoken⟩ := ih ht
        refine ⟨gap ++ c :: text ++ front, glued', d, piece, back, by simp [hrest], ?_, htoken⟩
        rw [hspan]
        simp only [Text.byteLength_append, Nat.add_assoc]

/-- A gap in front of a text only moves its tokens: what comes behind a gap touches nothing. -/
theorem readTokens_gap
    {gap : List Char} (hgap : IsGap gap) (hne : gap ≠ []) (pos : Nat) (glued : Bool)
    (cs : List Char) :
    readTokens pos glued (gap ++ cs) = readTokens (pos + Text.byteLength gap) false cs := by
  have happend : ∀ more : List Char, (glued && (gap ++ more).isEmpty) = false := by
    intro more
    simp [hne]
  generalize hts : readTokens (pos + Text.byteLength gap) false cs = ts
  rw [← reads_iff] at hts
  cases hts with
  | done hcs => exact readTokens_of_isGap (hgap.append hcs)
  | @token _ _ more c text rest kind ts hmore hstart hread hrest =>
      have htoken := readTokens_token pos glued (hgap.append hmore) hstart
        (by rw [happend]; exact hread)
      rw [List.append_assoc, Text.byteLength_append, ← Nat.add_assoc] at htoken
      rw [htoken, reads_iff.mp hrest]

end Command
end MetricsScript
