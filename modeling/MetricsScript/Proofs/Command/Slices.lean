import Mathlib.Data.String.Basic
import MetricsScript.Proofs.Command.Tiling

/-!
# A token is read from its own text

The text that the span of a token marks out is all that the token is made of.  A reader may look
at the character behind its token, but only to see that the token does not run on, and at the end
of a text no token runs on.  Of what stands before a token it only matters whether a fragment
touches it, and only to a `#`.
-/

namespace MetricsScript

/-- The piece of a line that a span marks out. -/
def Span.slice (span : Span) (line : String) : String :=
  String.Pos.Raw.extract line ⟨span.start⟩ ⟨span.stop⟩

namespace Text

theorem utf8Len_eq_byteLength (cs : List Char) : String.utf8Len cs = byteLength cs := by
  induction cs with
  | nil => rfl
  | cons c cs ih => rw [String.utf8Len_cons, byteLength_cons, ih, Nat.add_comm]

end Text

theorem Span.slice_eq
    {line : String} {front text back : List Char} (h : line.toList = front ++ text ++ back) :
    Span.slice ⟨Text.byteLength front, Text.byteLength front + Text.byteLength text⟩ line =
      String.ofList text := by
  have hextract := String.extract_of_valid front text back
  rw [← h, String.ofList_toList, Text.utf8Len_eq_byteLength, Text.utf8Len_eq_byteLength]
    at hextract
  exact hextract

namespace Command

variable {pos : Nat} {glued : Bool} {c : Char} {text rest : List Char} {kind : Kind}

/-! ## Without what stands behind -/

/-- A token also ends where its text ends when nothing stands behind it. -/
theorem readToken_alone
    (hseparator : isSeparator c = false)
    (h : readToken glued c (text ++ rest) = (kind, rest)) :
    readToken glued c text = (kind, []) := by
  obtain ⟨text', htext, hreplace⟩ := readToken_replace glued (text ++ rest) hseparator
  rw [h] at htext hreplace
  have hsame : text' = text := (List.append_cancel_right htext).symm
  subst hsame
  by_cases hrest : rest = []
  · rw [hrest, List.append_nil] at h
    exact h
  · have hcut : CanReplace rest [] := by
      obtain ⟨x, more, hmore⟩ := List.exists_cons_of_ne_nil hrest
      rw [hmore]
      trivial
    have halone := hreplace [] hcut
    rw [List.append_nil] at halone
    apply halone
    intro _ hhead
    cases hhead

theorem StartsToken.alone (h : StartsToken (c :: (text ++ rest))) : StartsToken (c :: text) := by
  rw [startsToken_cons_iff] at h ⊢
  intro hgap
  apply h
  rcases hgap with hc | ⟨hslash, r, htext⟩
  · exact Or.inl hc
  · refine Or.inr ⟨hslash, r ++ rest, ?_⟩
    rcases htext with htext | htext
    · exact Or.inl (by rw [htext, List.cons_append])
    · exact Or.inr (by rw [htext, List.cons_append, List.cons_append])

/-! ## Without what stands before -/

/-- Only a `#` is read differently behind a fragment. -/
theorem readToken_unglued (h : c ≠ '#') (cs : List Char) :
    readToken glued c cs = readToken false c cs := by
  simp only [readToken, h, decide_false, Bool.false_and]

/-- No word that starts with a `#` is a descriptor, so behind a fragment it is a fragment. -/
theorem isFragment_readToken_hash (cs : List Char) :
    (readToken true '#' cs).1.isFragment = true := by
  have hword : readWord ('#' :: cs) = ((readWord cs).1.consPlain '#', (readWord cs).2) :=
    readWord_plain (by decide) (by decide)
  have hdescriptor : descriptor? ((readWord cs).1.consPlain '#').text = none := by
    have hdigit : Text.isDigit '#' = false := by decide
    simp [descriptor?, Text.numeral?, Word.consPlain, hdigit]
  rw [readToken_plain (by decide) (fun _ => rfl), readPlain_word hword (Or.inl hdescriptor),
    Word.toKind]
  split
  · rfl
  · rfl

/-! ## One token alone -/

/-- The text of a token alone is read as that token. -/
theorem readTokens_alone
    (hstart : StartsToken (c :: (text ++ rest)))
    (hread : readToken glued c (text ++ rest) = (kind, rest))
    (hhash : ¬(kind.isFragment = true ∧ c = '#')) :
    readTokens 0 false (c :: text) = [⟨kind, ⟨0, Text.byteLength (c :: text)⟩⟩] := by
  have halone : readToken false c text = (kind, []) := by
    have hglued := readToken_alone hstart.isSeparator hread
    by_cases hc : c = '#'
    · subst hc
      cases glued with
      | false => exact hglued
      | true =>
          have hfragment := isFragment_readToken_hash text
          rw [hglued] at hfragment
          exact absurd ⟨hfragment, rfl⟩ hhash
    · rw [← readToken_unglued hc]
      exact hglued
  have hstart' : StartsToken (c :: (text ++ [])) := by
    simpa using hstart.alone
  have hread' : readToken (false && ([] : List Char).isEmpty) c (text ++ []) = (kind, []) := by
    simpa using halone
  have htoken := readTokens_token 0 false .nil hstart' hread'
  simpa [readTokens_of_isGap .nil] using htoken

/-- Where a token stands in a text, and what its text alone is read as. -/
theorem Reads.exists_alone
    {cs : List Char} {ts : List Token} (h : Reads pos glued cs ts) {t : Token} (ht : t ∈ ts) :
    ∃ front c text back, cs = front ++ c :: text ++ back ∧
      t.span = ⟨pos + Text.byteLength front,
        pos + Text.byteLength front + Text.byteLength (c :: text)⟩ ∧
      (¬(t.kind.isFragment = true ∧ c = '#') →
        readTokens 0 false (c :: text) = [⟨t.kind, ⟨0, Text.byteLength (c :: text)⟩⟩]) := by
  obtain ⟨front, _, c, text, back, hcs, hspan, hstart, hread⟩ := h.exists_read ht
  exact ⟨front, c, text, back, hcs, hspan, readTokens_alone hstart hread⟩

/-- A token is determined by its own text: that text alone is read as one token of the same kind,
from its beginning to its end.  Only a `#` that opens no comment, because a fragment touches it,
needs that fragment. -/
theorem tokens_slice
    (line : String) (t : Token) (ht : t ∈ tokens line)
    (hhash : ¬(t.kind.isFragment = true ∧ (t.span.slice line).toList.head? = some '#')) :
    tokens (t.span.slice line) = [⟨t.kind, ⟨0, t.span.stop - t.span.start⟩⟩] := by
  obtain ⟨front, c, text, back, hline, hspan, halone⟩ :=
    (reads_readTokens 0 false line.toList).exists_alone ht
  rw [Nat.zero_add] at hspan
  have hslice : t.span.slice line = String.ofList (c :: text) := by
    rw [hspan]
    exact Span.slice_eq hline
  have hwidth : t.span.stop - t.span.start = Text.byteLength (c :: text) := by
    rw [hspan]
    exact Nat.add_sub_cancel_left _ _
  rw [hslice, String.toList_ofList, List.head?_cons, Option.some.injEq] at hhash
  rw [hslice, hwidth, tokens, String.toList_ofList]
  exact halone hhash

/-- The redirection of a descriptor that is written over two lines is read from its text alone,
without the words that touch it on either side. -/
theorem tokens_slice_redirection :
    let line := "é$ '2'\\3\\\n>|$#b"
    let t : Token := ⟨.redirect (some 3) .output, ⟨7, 13⟩⟩
    t ∈ tokens line ∧ t.span.slice line = "\\3\\\n>|" ∧
      tokens (t.span.slice line) = [⟨.redirect (some 3) .output, ⟨0, 6⟩⟩] := by
  intro line t
  have ht : t ∈ tokens line := by decide +kernel
  have hslice : t.span.slice line = "\\3\\\n>|" := by decide +kernel
  exact ⟨ht, hslice, tokens_slice line t ht (by decide +kernel)⟩

/-- Behind a fragment `#` goes on with an argument; alone it opens a comment. -/
example :
    (tokens "'a'#b").map (fun t => t.kind) =
        [.fragment (.singleQuoted "a"), .fragment (.word "#b")] ∧
      (tokens "#b").map (fun t => t.kind) = [.comment "b"] := by
  decide +kernel

end Command
end MetricsScript
