import MetricsScript.Proofs.Command.Reading

/-!
# Closed lines

A line is closed if a space behind it changes none of its tokens: no quote, body, backtick,
comment or escape is left open at its end.  Behind a closed line the reader starts anew.  What
is read before a neutral character does not depend on what stands there, so the tokens of a
longer line are those of the closed one followed by those of the rest.
-/

namespace MetricsScript
namespace Command

/-- A space behind the line changes none of its tokens, spans included. -/
def Closed (line : String) : Prop :=
  tokens (line ++ " ") = tokens line

instance (line : String) : Decidable (Closed line) :=
  inferInstanceAs (Decidable (tokens (line ++ " ") = tokens line))

/-- The text is empty or starts with a neutral character. -/
def StartsNeutral (next : List Char) : Prop :=
  ∀ y ∈ next.head?, isNeutral y = true

/-- A token still starts where it did when no line feed comes behind the text, at once or behind
a carriage return. -/
theorem StartsToken.append_of_ne
    {c : Char} {cs next : List Char} (h : StartsToken (c :: cs))
    (hfeed : ∀ s, next ≠ '\n' :: s) (hreturn : ∀ s, next ≠ '\r' :: '\n' :: s) :
    StartsToken (c :: (cs ++ next)) := by
  rw [startsToken_cons_iff] at h ⊢
  rintro (hc | ⟨rfl, r, hr⟩)
  · exact h (Or.inl hc)
  refine h (Or.inr ⟨rfl, ?_⟩)
  rcases cs with _ | ⟨d, _ | ⟨e, cs⟩⟩
  · rcases hr with hr | hr
    · exact absurd hr (hfeed r)
    · exact absurd hr (hreturn r)
  · rcases hr with hr | hr
    · obtain ⟨rfl, -⟩ := List.cons.inj hr
      exact ⟨[], Or.inl rfl⟩
    · exact absurd (List.cons.inj hr).2 (hfeed r)
  · rcases hr with hr | hr
    · obtain ⟨rfl, -⟩ := List.cons.inj hr
      exact ⟨e :: cs, Or.inl rfl⟩
    · obtain ⟨rfl, htail⟩ := List.cons.inj hr
      obtain ⟨rfl, -⟩ := List.cons.inj htail
      exact ⟨cs, Or.inr rfl⟩

theorem StartsToken.append
    {c : Char} {cs : List Char} (h : StartsToken (c :: cs)) {next : List Char}
    (hnext : StartsNeutral next) :
    StartsToken (c :: (cs ++ next)) := by
  refine h.append_of_ne ?_ ?_
  · rintro s rfl
    exact absurd (hnext '\n' rfl) (by decide)
  · rintro s rfl
    exact absurd (hnext '\r' rfl) (by decide)

/-- Two fronts of one text that are equally wide are equal. -/
theorem append_inj_of_byteLength_eq
    {xs ys xs' ys' : List Char} (h : xs ++ ys = xs' ++ ys')
    (hwidth : Text.byteLength xs = Text.byteLength xs') : xs = xs' ∧ ys = ys' := by
  rcases List.append_eq_append_iff.mp h with ⟨more, rfl, rfl⟩ | ⟨more, rfl, rfl⟩
  · have hmore : Text.byteLength more = 0 := by
      rw [Text.byteLength_append] at hwidth
      omega
    rw [Text.byteLength_eq_zero_iff.mp hmore]
    simp
  · have hmore : Text.byteLength more = 0 := by
      rw [Text.byteLength_append] at hwidth
      omega
    rw [Text.byteLength_eq_zero_iff.mp hmore]
    simp

/-- A token that a space behind the line does not change. -/
theorem readToken_append_space
    {pos : Nat} {glued : Bool} {gap : List Char} {c : Char} {text rest : List Char}
    {kind : Kind} {ts : List Token} (hgap : IsGap gap)
    (hstart : StartsToken (c :: (text ++ rest)))
    (h : readTokens pos glued (gap ++ c :: (text ++ rest) ++ [' ']) =
      ⟨kind, ⟨pos + Text.byteLength gap,
        pos + Text.byteLength gap + Text.byteLength (c :: text)⟩⟩ :: ts) :
    readToken (glued && gap.isEmpty) c (text ++ (rest ++ [' '])) = (kind, rest ++ [' ']) ∧
      readTokens (pos + Text.byteLength gap + Text.byteLength (c :: text)) kind.isFragment
        (rest ++ [' ']) = ts := by
  have hstart : StartsToken (c :: (text ++ (rest ++ [' ']))) := by
    have hspace : StartsNeutral [' '] := by simp [StartsNeutral, isNeutral]
    have := hstart.append hspace
    rwa [List.append_assoc] at this
  obtain ⟨text', htext', -⟩ := readToken_replace (glued && gap.isEmpty)
    (text ++ (rest ++ [' '])) hstart.isSeparator
  generalize hread : readToken (glued && gap.isEmpty) c (text ++ (rest ++ [' '])) = read
    at htext'
  obtain ⟨kind', rest'⟩ := read
  simp only at htext'
  have hstart' := hstart
  have hread' := hread
  rw [htext'] at hstart' hread'
  rw [List.append_assoc, List.cons_append, List.append_assoc, htext',
    readTokens_token _ _ hgap hstart' hread'] at h
  obtain ⟨htoken, hts⟩ := List.cons.inj h
  simp only [Token.mk.injEq, Span.mk.injEq, Text.byteLength_cons] at htoken
  obtain ⟨rfl, -, hstop⟩ := htoken
  obtain ⟨rfl, rfl⟩ := append_inj_of_byteLength_eq htext' (by omega)
  exact ⟨rfl, hts⟩

/-- A token that ends before a space, or before more of its line, ends there whatever comes
neutrally behind the line. -/
theorem readToken_append_neutral
    {glued : Bool} {c : Char} {text rest next : List Char} {kind : Kind}
    (hseparator : isSeparator c = false)
    (h : readToken glued c (text ++ (rest ++ [' '])) = (kind, rest ++ [' ']))
    (hnext : StartsNeutral next)
    (hdollar : (c :: (text ++ rest)).getLast? = some '$' → next.head? ≠ some '$') :
    readToken glued c (text ++ (rest ++ next)) = (kind, rest ++ next) := by
  obtain ⟨text', htext', hreplace⟩ :=
    readToken_replace glued (text ++ (rest ++ [' '])) hseparator
  rw [h] at htext' hreplace
  obtain rfl := List.append_cancel_right htext'
  refine hreplace (rest ++ next) ?_ ?_
  · cases rest with
    | nil =>
        cases next with
        | nil => trivial
        | cons y next => exact Or.inr ⟨rfl, hnext y rfl⟩
    | cons x rest => exact Or.inl rfl
  · intro hlast hhead
    cases rest with
    | nil => exact absurd hhead (hdollar (by simpa using hlast))
    | cons x rest => exact hhead

/-- If a space behind a text changes none of its tokens, nothing that starts neutrally
does, unless a `$` comes behind a `$`. -/
theorem Reads.append
    {pos : Nat} {glued : Bool} {cs : List Char} {ts : List Token}
    (h : Reads pos glued cs ts) (hclosed : readTokens pos glued (cs ++ [' ']) = ts) :
    ∃ pos' glued' gap, IsGap gap ∧
      pos' + Text.byteLength gap = pos + Text.byteLength cs ∧
      ∀ next, StartsNeutral next → (cs.getLast? = some '$' → next.head? ≠ some '$') →
        readTokens pos glued (cs ++ next) = ts ++ readTokens pos' glued' (gap ++ next) := by
  induction h with
  | @done pos glued gap hgap =>
      exact ⟨pos, glued, gap, hgap, rfl, fun next _ _ => rfl⟩
  | @token pos glued gap c text rest kind ts hgap hstart hread hrest ih =>
      obtain ⟨hspace, hclosed⟩ := readToken_append_space hgap hstart hclosed
      obtain ⟨pos', glued', gap', hgap', hpos', hnext⟩ := ih hclosed
      refine ⟨pos', glued', gap', hgap', ?_, ?_⟩
      · rw [hpos']
        simp only [Text.byteLength_append, Text.byteLength_cons]
        omega
      · intro next hneutral hdollar
        have hdollar : (c :: (text ++ rest)).getLast? = some '$' → next.head? ≠ some '$' := by
          intro hlast
          refine hdollar ?_
          rw [List.getLast?_append, hlast]
          rfl
        have hrestdollar : rest.getLast? = some '$' → next.head? ≠ some '$' := by
          intro hlast
          refine hdollar ?_
          rw [← List.cons_append, List.getLast?_append, hlast]
          rfl
        have hstart := hstart.append hneutral
        have hread := readToken_append_neutral hstart.isSeparator hspace hneutral hdollar
        rw [List.append_assoc] at hstart
        rw [List.append_assoc, List.cons_append, List.append_assoc,
          readTokens_token _ _ hgap hstart hread, hnext next hneutral hrestdollar]
        rfl

/-- Behind a closed line the reader starts anew: at an offset where at most a gap is left of
the line. -/
theorem Closed.readTokens_append {line : String} (h : Closed line) :
    ∃ pos glued gap, IsGap gap ∧
      pos + Text.byteLength gap = Text.byteLength line.toList ∧
      ∀ next, StartsNeutral next →
        (line.toList.getLast? = some '$' → next.head? ≠ some '$') →
          readTokens 0 false (line.toList ++ next) =
            tokens line ++ readTokens pos glued (gap ++ next) := by
  have hclosed : readTokens 0 false (line.toList ++ [' ']) = tokens line := by
    simpa [Closed, tokens] using h
  obtain ⟨pos, glued, gap, hgap, hpos, hnext⟩ :=
    (reads_readTokens 0 false line.toList).append hclosed
  rw [Nat.zero_add] at hpos
  exact ⟨pos, glued, gap, hgap, hpos, hnext⟩

end Command
end MetricsScript
