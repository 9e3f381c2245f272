import MetricsScript.Proofs.Command.Reading

/-!
# Tokens tile their line

A line is cut into gaps and token texts, and the span of each token is where its text stands.
So spans are not empty, lie in the line one behind the other, and begin and end between
characters; and what belongs to no token is a separator or joins two lines.
-/

namespace MetricsScript
namespace Command

/-- The tokens of a text that begins at offset `pos` stand at the places of the pieces that
the text is cut into, with gaps between them. -/
inductive Tiles : Nat → List Char → List Token → Prop
  | done {pos : Nat} {gap : List Char} : IsGap gap → Tiles pos gap []
  | token {pos : Nat} {gap text rest : List Char} {t : Token} {ts : List Token} :
      IsGap gap → text ≠ [] →
      t.span = ⟨pos + Text.byteLength gap,
        pos + Text.byteLength gap + Text.byteLength text⟩ →
      Tiles t.span.stop rest ts → Tiles pos (gap ++ (text ++ rest)) (t :: ts)

/-- The offset lies between two characters of the text, or at an end of it. -/
def IsBoundary (cs : List Char) (offset : Nat) : Prop :=
  ∃ front back, cs = front ++ back ∧ Text.byteLength front = offset

/-- The span of the token holds the character `c` that stands at an offset. -/
def Token.Covers (t : Token) (offset : Nat) (c : Char) : Prop :=
  t.span.start ≤ offset ∧ offset + c.utf8Size ≤ t.span.stop

theorem Reads.tiles
    {pos : Nat} {glued : Bool} {cs : List Char} {ts : List Token}
    (h : Reads pos glued cs ts) : Tiles pos cs ts := by
  induction h with
  | done hgap => exact .done hgap
  | @token pos glued gap c text rest kind ts hgap _ _ _ ih =>
      exact .token hgap (List.cons_ne_nil c text) rfl ih

/-! ## One token among the others -/

variable {pos : Nat} {cs : List Char} {ts : List Token}

/-- Every span is a piece of the text that is not empty. -/
theorem Tiles.exists_piece (h : Tiles pos cs ts) {t : Token} (ht : t ∈ ts) :
    ∃ front text back, cs = front ++ text ++ back ∧ text ≠ [] ∧
      t.span = ⟨pos + Text.byteLength front,
        pos + Text.byteLength front + Text.byteLength text⟩ := by
  induction h with
  | done _ => cases ht
  | @token pos gap text rest u ts hgap htext hspan _ ih =>
      rcases List.mem_cons.mp ht with rfl | ht
      · exact ⟨gap, text, rest, by simp, htext, hspan⟩
      · obtain ⟨front, piece, back, hrest, hpiece, hplace⟩ := ih ht
        refine ⟨gap ++ text ++ front, piece, back, by simp [hrest], hpiece, ?_⟩
        rw [hplace, hspan]
        simp only [Text.byteLength_append, Nat.add_assoc]

/-- No token begins before the text that it is read from. -/
theorem Tiles.le_start (h : Tiles pos cs ts) {t : Token} (ht : t ∈ ts) :
    pos ≤ t.span.start := by
  obtain ⟨front, text, back, -, -, hspan⟩ := h.exists_piece ht
  rw [hspan]
  exact Nat.le_add_right _ _

theorem Tiles.start_lt_stop (h : Tiles pos cs ts) {t : Token} (ht : t ∈ ts) :
    t.span.start < t.span.stop := by
  obtain ⟨front, text, back, -, htext, hspan⟩ := h.exists_piece ht
  rw [hspan]
  exact Nat.lt_add_of_pos_right (byteLength_pos htext)

/-- No token ends behind the text that it is read from. -/
theorem Tiles.stop_le (h : Tiles pos cs ts) {t : Token} (ht : t ∈ ts) :
    t.span.stop ≤ pos + Text.byteLength cs := by
  obtain ⟨front, text, back, rfl, -, hspan⟩ := h.exists_piece ht
  rw [hspan]
  simp only [Text.byteLength_append]
  omega

theorem Tiles.pairwise (h : Tiles pos cs ts) :
    ts.Pairwise fun t u => t.span.stop ≤ u.span.start := by
  induction h with
  | done _ => exact .nil
  | token _ _ _ hrest ih => exact .cons (fun u hu => hrest.le_start hu) ih

/-- Every token takes a character of its own. -/
theorem Tiles.length_le (h : Tiles pos cs ts) : ts.length ≤ cs.length := by
  induction h with
  | done _ => exact Nat.zero_le _
  | token _ htext _ _ ih =>
      have := List.length_pos_iff.mpr htext
      simp only [List.length_cons, List.length_append]
      omega

/-! ## One character among the tokens -/

theorem append_eq_append_cons
    (xs : List Char) {ys front back : List Char} {c : Char}
    (h : xs ++ ys = front ++ c :: back) :
    (∃ more, xs = front ++ c :: more ∧ back = more ++ ys) ∨
      ∃ more, front = xs ++ more ∧ ys = more ++ c :: back := by
  rcases List.append_eq_append_iff.mp h with ⟨more, hfront, hys⟩ | ⟨more, hxs, hback⟩
  · exact Or.inr ⟨more, hfront, hys⟩
  · cases more with
    | nil => exact Or.inr ⟨[], by simpa using hxs.symm, by simpa using hback.symm⟩
    | cons d more =>
        obtain ⟨rfl, rfl⟩ := List.cons.inj hback
        exact Or.inl ⟨more, hxs, rfl⟩

theorem IsGap.isGapChar
    {gap front back : List Char} {c : Char} (h : IsGap gap) (hgap : gap = front ++ c :: back)
    (more : List Char) : IsGapChar c (back ++ more) := by
  induction h generalizing front with
  | nil => simp at hgap
  | @separator d cs hd _ ih =>
      rcases append_eq_append_cons [d] hgap with ⟨mid, hmid, rfl⟩ | ⟨mid, -, hcs⟩
      · rcases front with _ | ⟨e, front⟩
        · obtain ⟨rfl, -⟩ := List.cons.inj hmid
          exact Or.inl hd
        · simp at hmid
      · exact ih hcs
  | @lineFeed cs _ ih =>
      rcases append_eq_append_cons ['\\', '\n'] hgap with
        ⟨mid, hmid, rfl⟩ | ⟨mid, -, hcs⟩
      · rcases front with _ | ⟨e, _ | ⟨e', front⟩⟩
        · simp only [List.nil_append, List.cons.injEq] at hmid
          obtain ⟨rfl, rfl⟩ := hmid
          exact Or.inr ⟨rfl, _, Or.inl rfl⟩
        · simp only [List.cons_append, List.nil_append, List.cons.injEq] at hmid
          obtain ⟨-, rfl, -⟩ := hmid
          exact Or.inl rfl
        · simp at hmid
      · exact ih hcs
  | @returnLineFeed cs _ ih =>
      rcases append_eq_append_cons ['\\', '\r', '\n'] hgap with
        ⟨mid, hmid, rfl⟩ | ⟨mid, -, hcs⟩
      · rcases front with _ | ⟨e, _ | ⟨e', _ | ⟨e'', front⟩⟩⟩
        · simp only [List.nil_append, List.cons.injEq] at hmid
          obtain ⟨rfl, rfl⟩ := hmid
          exact Or.inr ⟨rfl, _, Or.inr rfl⟩
        · simp only [List.cons_append, List.nil_append, List.cons.injEq] at hmid
          obtain ⟨-, rfl, -⟩ := hmid
          exact Or.inl rfl
        · simp only [List.cons_append, List.nil_append, List.cons.injEq] at hmid
          obtain ⟨-, -, rfl, -⟩ := hmid
          exact Or.inl rfl
        · simp at hmid
      · exact ih hcs

/-- A character that is no part of a gap belongs to a token. -/
theorem Tiles.covers_or_isGapChar
    (h : Tiles pos cs ts) {front back : List Char} {c : Char} (hcs : cs = front ++ c :: back) :
    (∃ t ∈ ts, t.Covers (pos + Text.byteLength front) c) ∨ IsGapChar c back := by
  induction h generalizing front with
  | done hgap =>
      have := hgap.isGapChar hcs []
      rw [List.append_nil] at this
      exact Or.inr this
  | @token pos gap text rest t ts hgap _ hspan _ ih =>
      rcases append_eq_append_cons _ hcs with ⟨mid, hin, rfl⟩ | ⟨mid, rfl, htail⟩
      · exact Or.inr (hgap.isGapChar hin _)
      rcases append_eq_append_cons _ htail with ⟨more, hin, rfl⟩ | ⟨more, rfl, hrest⟩
      · refine Or.inl ⟨t, List.mem_cons_self, ?_⟩
        simp only [Token.Covers, hspan, hin, Text.byteLength_append, Text.byteLength_cons]
        omega
      · rcases ih hrest with ⟨u, hu, hcovers⟩ | hchar
        · refine Or.inl ⟨u, List.mem_cons_of_mem t hu, ?_⟩
          rw [hspan] at hcovers
          simpa [Nat.add_assoc] using hcovers
        · exact Or.inr hchar

/-- A character belongs to one token only. -/
theorem eq_of_covers
    (hpairwise : ts.Pairwise fun t u => t.span.stop ≤ u.span.start)
    {t u : Token} (ht : t ∈ ts) (hu : u ∈ ts) {offset : Nat} {c : Char}
    (htc : t.Covers offset c) (huc : u.Covers offset c) : t = u := by
  have hsize := c.utf8Size_pos
  obtain ⟨htstart, htstop⟩ := htc
  obtain ⟨hustart, hustop⟩ := huc
  induction hpairwise with
  | nil => cases ht
  | @cons v vs hv _ ih =>
      rcases List.mem_cons.mp ht with rfl | htvs
      · rcases List.mem_cons.mp hu with rfl | huvs
        · rfl
        · have := hv u huvs
          omega
      · rcases List.mem_cons.mp hu with rfl | huvs
        · have := hv t htvs
          omega
        · exact ih htvs huvs

/-- The spans of the tokens of a line are not empty, lie in the line one behind the other, and
begin and end between characters.  They tile the line up to gaps of separators and of
backslashes that join lines: every character belongs to exactly one token, or to none and then
it is one of these.  There are no more tokens than characters. -/
theorem tokens_tile (line : String) :
    Tiles 0 line.toList (tokens line) ∧
    (∀ t ∈ tokens line, t.span.start < t.span.stop ∧
      t.span.stop ≤ Text.byteLength line.toList ∧
      IsBoundary line.toList t.span.start ∧ IsBoundary line.toList t.span.stop) ∧
    ((tokens line).Pairwise fun t u => t.span.stop ≤ u.span.start) ∧
    (∀ front c back, line.toList = front ++ c :: back →
      (∃ t ∈ tokens line, t.Covers (Text.byteLength front) c ∧
        ∀ u ∈ tokens line, u.Covers (Text.byteLength front) c → u = t) ∨
      IsGapChar c back ∧ ∀ t ∈ tokens line, ¬t.Covers (Text.byteLength front) c) ∧
    (tokens line).length ≤ line.toList.length := by
  have htiles : Tiles 0 line.toList (tokens line) :=
    (reads_readTokens 0 false line.toList).tiles
  refine ⟨htiles, ?_, htiles.pairwise, ?_, htiles.length_le⟩
  · intro t ht
    obtain ⟨front, text, back, hline, -, hspan⟩ := htiles.exists_piece ht
    refine ⟨htiles.start_lt_stop ht, ?_, ?_, ?_⟩
    · simp [hspan, hline]
    · exact ⟨front, text ++ back, by simp [hline], by simp [hspan]⟩
    · exact ⟨front ++ text, back, hline, by simp [hspan]⟩
  · intro front c back hline
    by_cases hcovered : ∃ t ∈ tokens line, t.Covers (Text.byteLength front) c
    · obtain ⟨t, ht, hcovers⟩ := hcovered
      refine Or.inl ⟨t, ht, hcovers, fun u hu huc => ?_⟩
      exact eq_of_covers htiles.pairwise hu ht huc hcovers
    · have hnone : ∀ t ∈ tokens line, ¬t.Covers (Text.byteLength front) c :=
        fun t ht hcovers => hcovered ⟨t, ht, hcovers⟩
      refine Or.inr ⟨?_, hnone⟩
      rcases htiles.covers_or_isGapChar hline with ⟨t, ht, hcovers⟩ | hgap
      · rw [Nat.zero_add] at hcovers
        exact absurd hcovers (hnone t ht)
      · exact hgap

end Command
end MetricsScript
