import MetricsScript.Proofs.Command.LeftOpen
import MetricsScript.Proofs.Command.MaximalRuns
import MetricsScript.Proofs.Command.Tiling

/-!
# Where the text of arguments comes from

No reader makes up characters: the literal text of a token is what is left of the token's own
characters, in their order, when some of them are left out.  So an argument comes from the range
of its run, and the arguments together come from the line without everything that is dropped.
-/

namespace MetricsScript

/-- The offset lies in the span. -/
def Span.Holds (span : Span) (offset : Nat) : Prop :=
  span.start ≤ offset ∧ offset < span.stop

instance (span : Span) : DecidablePred span.Holds :=
  fun offset => inferInstanceAs (Decidable (span.start ≤ offset ∧ offset < span.stop))

namespace Text

/-- The characters at the offsets that are kept, of a text that begins at offset `pos`. -/
def charsAt (keep : Nat → Prop) [DecidablePred keep] : Nat → List Char → List Char
  | _, [] => []
  | pos, c :: cs =>
      if keep pos then c :: charsAt keep (pos + c.utf8Size) cs
      else charsAt keep (pos + c.utf8Size) cs

variable {keep : Nat → Prop} [DecidablePred keep]

theorem charsAt_append (pos : Nat) (cs ds : List Char) :
    charsAt keep pos (cs ++ ds) =
      charsAt keep pos cs ++ charsAt keep (pos + byteLength cs) ds := by
  induction cs generalizing pos with
  | nil => rfl
  | cons c cs ih =>
      rw [List.cons_append, charsAt, charsAt, ih, byteLength_cons, Nat.add_assoc]
      split
      · rfl
      · rfl

/-- A range that is kept as a whole is the text that stands there. -/
theorem charsAt_eq_self
    {pos : Nat} {cs : List Char}
    (h : ∀ offset, (⟨pos, pos + byteLength cs⟩ : Span).Holds offset → keep offset) :
    charsAt keep pos cs = cs := by
  induction cs generalizing pos with
  | nil => rfl
  | cons c cs ih =>
      have hsize := c.utf8Size_pos
      simp only [byteLength_cons, Span.Holds] at h
      rw [charsAt, if_pos (h pos (by omega)), ih]
      intro offset hoffset
      simp only [Span.Holds] at hoffset
      exact h offset (by omega)

end Text

namespace Command

/-- A variable or a command outside quotes. -/
def Kind.isExpansion : Kind → Bool
  | .fragment (.parameter _) | .fragment (.substitution _ _) => true
  | _ => false

/-- What no argument extends over: an operator, a redirection, a process, a comment, or a glob. -/
def Kind.isBarrier (kind : Kind) : Bool :=
  !kind.isFragment || kind.isGlob

/-- The characters of a range of the line, but for those of the expansions outside quotes. -/
def charsOutsideExpansions (line : String) (range : Span) : List Char :=
  Text.charsAt (fun offset => range.Holds offset ∧
    ∀ t ∈ tokens line, t.kind.isExpansion = true → ¬t.span.Holds offset) 0 line.toList

/-- The characters of the line, but for those of everything that is dropped. -/
def charsOutsideConstructs (line : String) : List Char :=
  Text.charsAt (fun offset => ∀ t ∈ tokens line,
    t.kind.isExpansion = true ∨ t.kind.isBarrier = true → ¬t.span.Holds offset) 0 line.toList

/-- What an argument from a range of the line is like.  The range is not empty, begins and ends
between characters, and is apart from all barriers; the argument is made of characters of it that
belong to no expansion outside quotes, in their order. -/
structure ComesFrom (line : String) (range : Span) (argument : String) : Prop where
  start_lt_stop : range.start < range.stop
  isBoundary_start : IsBoundary line.toList range.start
  isBoundary_stop : IsBoundary line.toList range.stop
  apart : ∀ t ∈ tokens line, t.kind.isBarrier = true →
    t.span.stop ≤ range.start ∨ range.stop ≤ t.span.start
  sublist : argument.toList.Sublist (charsOutsideExpansions line range)

/-! ## The text of one token -/

/-- The text of a word is a part of what was read. -/
theorem readWord_sublist (cs : List Char) :
    ((readWord cs).1.text ++ (readWord cs).2).Sublist cs := by
  fun_induction readWord cs with
  | case1 => exact List.Sublist.refl _
  | case2 cs ih => exact (ih.cons '\n').cons '\\'
  | case3 cs ih => exact ((ih.cons '\n').cons '\r').cons '\\'
  | case4 c cs _ _ word rest hread ih =>
      rw [hread] at ih
      exact (ih.cons_cons c).cons '\\'
  | case5 => exact List.Sublist.refl _
  | case6 c cs _ _ _ _ word rest hread ih =>
      rw [hread] at ih
      exact ih.cons_cons c

theorem readExpansion_sublist
    {cs rest : List Char} {e : Expansion} (h : readExpansion cs = some (e, rest)) :
    rest.Sublist cs := by
  obtain ⟨text, rfl, -⟩ := readExpansion_replace h
  exact List.sublist_append_right text rest

theorem readSingleQuoted_sublist (cs : List Char) :
    ((readSingleQuoted cs).1 ++ (readSingleQuoted cs).2).Sublist cs := by
  have hdrop := List.drop_sublist 1 (cs.dropWhile (· != '\''))
  have happend := hdrop.append_left (cs.takeWhile (· != '\''))
  rw [List.takeWhile_append_dropWhile] at happend
  exact happend

/-- The literal characters of double-quoted text are a part of what was read. -/
theorem readDoubleQuoted_sublist (cs : List Char) :
    ((readDoubleQuoted cs).1.flatMap QuotedPiece.literal ++ (readDoubleQuoted cs).2).Sublist
      cs := by
  fun_induction readDoubleQuoted cs with
  | case1 => exact List.Sublist.refl _
  | case2 c cs _ pieces rest hread ih =>
      rw [hread] at ih
      exact (ih.cons_cons c).cons '\\'
  | case3 c cs _ pieces rest hread ih =>
      rw [hread] at ih
      exact ih.cons_cons '\\'
  | case4 cs => exact List.sublist_cons_self _ _
  | case5 cs e after hexpansion _ pieces rest hread _ _ ih =>
      rw [hread] at ih
      exact (ih.trans (readExpansion_sublist hexpansion)).cons '$'
  | case6 cs _ pieces rest hread _ _ ih =>
      rw [hread] at ih
      exact ih.cons_cons '$'
  | case7 c cs _ _ _ pieces rest hread ih =>
      rw [hread] at ih
      exact ih.cons_cons c

theorem Word.toList_literalText_toKind (w : Word) : w.toKind.literalText.toList = w.text := by
  rw [toKind]
  split
  · exact String.toList_ofList
  · exact String.toList_ofList

theorem Kind.literalText_of_not_fragment
    {kind : Kind} (h : kind.isFragment = false) : kind.literalText = "" := by
  cases kind with
  | fragment f => cases h
  | _ => rfl

/-- A token without literal text puts nothing in front of its rest. -/
theorem sublist_of_literalText_eq
    {kind : Kind} {rest cs : List Char} (htext : kind.literalText = "") (h : rest.Sublist cs) :
    (kind.literalText.toList ++ rest).Sublist cs := by
  rw [htext]
  exact h

theorem readPlain_sublist (cs : List Char) :
    ((readPlain cs).1.literalText.toList ++ (readPlain cs).2).Sublist cs := by
  obtain ⟨text, htext, -⟩ := readPlain_stable cs
  have hrest : (readPlain cs).2.Sublist cs := by
    conv_rhs => rw [htext]
    exact List.sublist_append_right text _
  have hredirect : (readPlain cs).1.isFragment = false →
      ((readPlain cs).1.literalText.toList ++ (readPlain cs).2).Sublist cs :=
    fun h => sublist_of_literalText_eq (Kind.literalText_of_not_fragment h) hrest
  rcases readPlain_cases cs with hread | ⟨n, rest, hread⟩ | ⟨n, rest, hread⟩
  · rw [hread, Word.toList_literalText_toKind]
    exact readWord_sublist cs
  · apply hredirect
    rw [hread]
    exact isFragment_readOutput _ rest
  · apply hredirect
    rw [hread]
    exact isFragment_readInput _ rest

/-- The text of a word that a `$` begins starts with that `$`, and an expansion has none. -/
theorem readDollar_sublist (cs : List Char) :
    ((readDollar cs).1.literalText.toList ++ (readDollar cs).2).Sublist ('$' :: cs) := by
  cases hexpansion : readExpansion cs with
  | some read =>
      obtain ⟨e, rest⟩ := read
      obtain ⟨-, hliteral, hglob, hrest⟩ := readDollar_of_some hexpansion
      rw [hrest]
      apply sublist_of_literalText_eq (Kind.literalText_of_not_literal hliteral hglob)
      exact (readExpansion_sublist hexpansion).cons '$'
  | none =>
      rw [readDollar_of_none hexpansion, Word.toList_literalText_toKind]
      exact (readWord_sublist cs).cons_cons '$'

/-- The text of a token and what is left behind it are together a part of what was read. -/
theorem readToken_sublist
    (glued : Bool) {c : Char} (cs : List Char) (hseparator : isSeparator c = false) :
    ((readToken glued c cs).1.literalText.toList ++ (readToken glued c cs).2).Sublist
      (c :: cs) := by
  obtain ⟨text, htext, -⟩ := readToken_replace glued cs hseparator
  have hrest : (readToken glued c cs).2.Sublist (c :: cs) := by
    conv_rhs => rw [htext]
    exact (List.sublist_append_right text _).cons c
  have hread := readBy_readToken glued c
  generalize readToken glued c = read at hrest hread ⊢
  have hsilent : (read cs).1.isFragment = false →
      ((read cs).1.literalText.toList ++ (read cs).2).Sublist (c :: cs) :=
    fun h => sublist_of_literalText_eq (Kind.literalText_of_not_fragment h) hrest
  cases hread with
  | comment _ => exact hsilent rfl
  | ampersand => exact hsilent (isFragment_readAmpersand cs)
  | pipe => exact hsilent (isFragment_readPipe cs)
  | semicolon => exact hsilent (isFragment_readSemicolon cs)
  | openParen => exact hsilent rfl
  | closeParen => exact hsilent rfl
  | output => exact hsilent (isFragment_readOutput none cs)
  | input => exact hsilent (isFragment_readInput none cs)
  | dollar => exact readDollar_sublist cs
  | backticks => exact sublist_of_literalText_eq rfl hrest
  | singleQuoted =>
      rw [Kind.literalText, Fragment.literalText, String.toList_ofList]
      exact (readSingleQuoted_sublist cs).cons '\''
  | doubleQuoted =>
      rw [Kind.literalText, literalText_doubleQuoted, String.toList_ofList]
      exact (readDoubleQuoted_sublist cs).cons '"'
  | plain _ _ => exact readPlain_sublist (c :: cs)

/-! ## The text of some tokens -/

section
variable {keep : Nat → Prop} [DecidablePred keep]

/-- Of some tokens whose text stands in what is kept, the texts together are a part of it. -/
theorem Reads.sublist_charsAt
    {pos : Nat} {glued : Bool} {cs : List Char} {ts us : List Token}
    (h : Reads pos glued cs ts) (hsome : us.Sublist ts)
    (hkeep : ∀ u ∈ us, u.kind.literalText ≠ "" → ∀ offset, u.span.Holds offset → keep offset) :
    (runText us).toList.Sublist (Text.charsAt keep pos cs) := by
  induction h generalizing us with
  | done _ =>
      obtain rfl := List.sublist_nil.mp hsome
      exact List.nil_sublist _
  | @token pos glued gap c text rest kind ts _ hstart hread _ ih =>
      have hcut : gap ++ c :: (text ++ rest) = gap ++ (c :: text ++ rest) := rfl
      rw [hcut, Text.charsAt_append, Text.charsAt_append]
      apply List.Sublist.trans _ (List.sublist_append_right _ _)
      generalize hspan : (⟨pos + Text.byteLength gap,
        pos + Text.byteLength gap + Text.byteLength (c :: text)⟩ : Span) = span at hsome
      cases hsome with
      | cons _ hsome =>
          exact (ih hsome hkeep).trans (List.sublist_append_right _ _)
      | @cons_cons us _ _ hsome =>
          rw [runText_cons, String.toList_append]
          apply List.Sublist.append _
            (ih hsome fun u hu => hkeep u (List.mem_cons_of_mem _ hu))
          by_cases htext : kind.literalText = ""
          · simp [htext]
          · have hpart := readToken_sublist (glued && gap.isEmpty) (text ++ rest)
              hstart.isSeparator
            rw [hread, ← List.cons_append, List.append_sublist_append_right] at hpart
            have hwhole : Text.charsAt keep (pos + Text.byteLength gap) (c :: text) =
                c :: text := by
              apply Text.charsAt_eq_self
              rw [hspan]
              exact hkeep _ List.mem_cons_self htext
            rw [hwhole]
            exact hpart

end

theorem Kind.literalText_of_isExpansion
    {kind : Kind} (h : kind.isExpansion = true) : kind.literalText = "" := by
  cases kind with
  | fragment f =>
      cases f with
      | parameter name => rfl
      | substitution content backtick => rfl
      | _ => cases h
  | _ => cases h

/-! ## Tokens in their order -/

/-- The spans of the tokens are not empty and lie one behind the other. -/
structure InOrder (ts : List Token) : Prop where
  start_lt_stop : ∀ t ∈ ts, t.span.start < t.span.stop
  pairwise : ts.Pairwise fun t u => t.span.stop ≤ u.span.start

/-- From where the first token of a run begins to where the last one ends. -/
def runSpan (run : List Token) : Span where
  start := (run.head?.map fun t => t.span.start).getD 0
  stop := (run.getLast?.map fun t => t.span.stop).getD 0

theorem Tiles.inOrder {pos : Nat} {cs : List Char} {ts : List Token} (h : Tiles pos cs ts) :
    InOrder ts where
  start_lt_stop _ ht := h.start_lt_stop ht
  pairwise := h.pairwise

section
variable {ts front run back : List Token} {t u : Token} {offset : Nat}

theorem InOrder.eq_of_holds
    (h : InOrder ts) (ht : t ∈ ts) (hu : u ∈ ts) (htoffset : t.span.Holds offset)
    (huoffset : u.span.Holds offset) : t = u := by
  -- Any character of one byte does.
  have hcovers : ∀ {v : Token}, v.span.Holds offset → v.Covers offset 'a' :=
    fun hv => ⟨hv.1, hv.2⟩
  exact eq_of_covers h.pairwise ht hu (hcovers htoffset) (hcovers huoffset)

theorem InOrder.of_sublist (h : InOrder ts) (hsome : run.Sublist ts) : InOrder run where
  start_lt_stop t ht := h.start_lt_stop t (hsome.subset ht)
  pairwise := h.pairwise.sublist hsome

theorem runSpan_start (hne : run ≠ []) : (runSpan run).start = (run.head hne).span.start := by
  rw [runSpan, List.head?_eq_some_head hne]
  rfl

theorem runSpan_stop (hne : run ≠ []) :
    (runSpan run).stop = (run.getLast hne).span.stop := by
  rw [runSpan, List.getLast?_eq_some_getLast hne]
  rfl

/-- No token of a run begins before the run does. -/
theorem InOrder.runSpan_start_le (h : InOrder run) (ht : t ∈ run) :
    (runSpan run).start ≤ t.span.start := by
  cases run with
  | nil => cases ht
  | cons u run =>
      rw [runSpan_start (List.cons_ne_nil u run), List.head_cons]
      rcases List.mem_cons.mp ht with rfl | ht
      · exact Nat.le_refl _
      · have hu := h.start_lt_stop u List.mem_cons_self
        have := List.rel_of_pairwise_cons h.pairwise ht
        omega

/-- No token of a run ends behind the run. -/
theorem InOrder.le_runSpan_stop (h : InOrder run) (ht : t ∈ run) :
    t.span.stop ≤ (runSpan run).stop := by
  have hne := List.ne_nil_of_mem ht
  rw [runSpan_stop hne]
  have hsplit := List.dropLast_append_getLast hne
  have hpairwise := h.pairwise
  rw [← hsplit] at ht hpairwise
  rcases List.mem_append.mp ht with hfront | hlast
  · have hlast := h.start_lt_stop _ (List.getLast_mem hne)
    have := (List.pairwise_append.mp hpairwise).2.2 t hfront _ (List.mem_singleton_self _)
    omega
  · rw [List.mem_singleton.mp hlast]

theorem InOrder.runSpan_start_lt_stop (h : InOrder run) (hne : run ≠ []) :
    (runSpan run).start < (runSpan run).stop := by
  have hhead := List.head_mem hne
  have hstart := h.runSpan_start_le hhead
  have hstop := h.le_runSpan_stop hhead
  have := h.start_lt_stop _ hhead
  omega

/-- A token that is not in the run stands before it or behind it. -/
theorem InOrder.apart_of_notMem
    (h : InOrder (front ++ run ++ back)) (hne : run ≠ []) (ht : t ∈ front ++ run ++ back)
    (hout : t ∉ run) :
    t.span.stop ≤ (runSpan run).start ∨ (runSpan run).stop ≤ t.span.start := by
  obtain ⟨hfirst, -, hbehind⟩ := List.pairwise_append.mp h.pairwise
  obtain ⟨-, -, hbefore⟩ := List.pairwise_append.mp hfirst
  rcases List.mem_append.mp ht with ht | hback
  · rcases List.mem_append.mp ht with hfront | hrun
    · left
      rw [runSpan_start hne]
      exact hbefore t hfront _ (List.head_mem hne)
    · exact absurd hrun hout
  · right
    rw [runSpan_stop hne]
    exact hbehind _ (List.mem_append_right front (List.getLast_mem hne)) t hback

end

/-! ## The runs of a line -/

section
variable {line : String} {ts run : List Token} {cut : List (List Token)} {argument : String}

theorem CutInto.isInfix (h : CutInto ts cut) (hrun : run ∈ cut) :
    IsFragmentRun run ∧ run <:+: ts := by
  induction h with
  | nil => cases hrun
  | other _ _ ih =>
      obtain ⟨hfragments, hpart⟩ := ih hrun
      exact ⟨hfragments, List.infix_cons hpart⟩
  | @run first ts cut hfirst _ _ ih =>
      rcases List.mem_cons.mp hrun with rfl | hrun
      · exact ⟨hfirst, (List.prefix_append run ts).isInfix⟩
      · obtain ⟨hfragments, hpart⟩ := ih hrun
        exact ⟨hfragments, hpart.trans (List.suffix_append first ts).isInfix⟩

theorem CutInto.flatten_sublist (h : CutInto ts cut) : cut.flatten.Sublist ts := by
  rw [h.flatten_eq]
  exact List.filter_sublist

theorem inOrder_tokens (line : String) : InOrder (tokens line) :=
  (reads_readTokens 0 false line.toList).tiles.inOrder

/-- Tokens begin and end between characters. -/
theorem isBoundary_span {t : Token} (ht : t ∈ tokens line) :
    IsBoundary line.toList t.span.start ∧ IsBoundary line.toList t.span.stop := by
  obtain ⟨front, text, back, hline, -, hspan⟩ :=
    (reads_readTokens 0 false line.toList).tiles.exists_piece ht
  rw [hspan]
  constructor
  · exact ⟨front, text ++ back, by simp [hline], by simp⟩
  · exact ⟨front ++ text, back, hline, by simp⟩

/-- No token of an argument is a barrier. -/
theorem isBarrier_of_argument?
    (hrun : IsFragmentRun run) (hargument : argument? run = some argument) {t : Token}
    (ht : t ∈ run) : t.kind.isBarrier = false := by
  obtain ⟨-, hglob, -⟩ := argument?_eq_some_iff.mp hargument
  rw [Kind.isBarrier, hrun.fragments t ht, hglob t ht]
  rfl

/-- A run that is an argument comes from where the run stands. -/
theorem comesFrom_runSpan
    (hrun : IsFragmentRun run) (hpart : run <:+: tokens line)
    (hargument : argument? run = some argument) : ComesFrom line (runSpan run) argument := by
  obtain ⟨-, -, rfl⟩ := argument?_eq_some_iff.mp hargument
  have hne := hrun.ne_nil
  have hline := inOrder_tokens line
  have hin := hline.of_sublist hpart.sublist
  constructor
  · exact hin.runSpan_start_lt_stop hne
  · rw [runSpan_start hne]
    exact (isBoundary_span (hpart.subset (List.head_mem hne))).1
  · rw [runSpan_stop hne]
    exact (isBoundary_span (hpart.subset (List.getLast_mem hne))).2
  · intro t ht hbarrier
    have hout : t ∉ run := by
      intro hmem
      rw [isBarrier_of_argument? hrun hargument hmem] at hbarrier
      cases hbarrier
    obtain ⟨front, back, hwhole⟩ := hpart
    rw [← hwhole] at ht hline
    exact hline.apart_of_notMem hne ht hout
  · apply (reads_readTokens 0 false line.toList).sublist_charsAt hpart.sublist
    intro u hu htext offset hoffset
    constructor
    · have hstart := hin.runSpan_start_le hu
      have hstop := hin.le_runSpan_stop hu
      exact ⟨hstart.trans hoffset.1, Nat.lt_of_lt_of_le hoffset.2 hstop⟩
    · intro t ht hexpansion htoffset
      obtain rfl := hline.eq_of_holds ht (hpart.subset hu) htoffset hoffset
      exact htext (Kind.literalText_of_isExpansion hexpansion)

/-- Where the argument that a run is comes from, if the run is one. -/
def argumentSpan? (run : List Token) : Option Span :=
  (argument? run).map fun _ => runSpan run

theorem forall₂_argumentSpan?
    (h : ∀ run ∈ cut, ∀ argument, argument? run = some argument →
      ComesFrom line (runSpan run) argument) :
    List.Forall₂ (ComesFrom line) (cut.filterMap argumentSpan?) (cut.filterMap argument?) := by
  induction cut with
  | nil => exact .nil
  | cons run cut ih =>
      have hrest := ih fun run' hrun' => h run' (List.mem_cons_of_mem run hrun')
      cases hargument : argument? run with
      | none =>
          have hspan : argumentSpan? run = none := by rw [argumentSpan?, hargument]; rfl
          rw [List.filterMap_cons_none hargument, List.filterMap_cons_none hspan]
          exact hrest
      | some argument =>
          have hspan : argumentSpan? run = some (runSpan run) := by
            rw [argumentSpan?, hargument]
            rfl
          rw [List.filterMap_cons_some hargument, List.filterMap_cons_some hspan]
          exact .cons (h run List.mem_cons_self argument hargument) hrest

/-- Runs in their order stand one behind the other. -/
theorem pairwise_argumentSpan?
    (h : InOrder cut.flatten) (hne : ∀ run ∈ cut, run ≠ []) :
    (cut.filterMap argumentSpan?).Pairwise fun r s => r.stop ≤ s.start := by
  rw [List.pairwise_filterMap]
  apply (List.pairwise_flatten.mp h.pairwise).2.imp_of_mem
  intro run run' hrun hrun' hbehind span hspan span' hspan'
  obtain ⟨-, -, rfl⟩ := Option.map_eq_some_iff.mp hspan
  obtain ⟨-, -, rfl⟩ := Option.map_eq_some_iff.mp hspan'
  rw [runSpan_stop (hne run hrun), runSpan_start (hne run' hrun')]
  exact hbehind _ (List.getLast_mem _) _ (List.head_mem _)

theorem join_filterMap_argument? (cut : List (List Token)) :
    String.join (cut.filterMap argument?) =
      runText (cut.filter fun run => (argument? run).isSome).flatten := by
  induction cut with
  | nil => rfl
  | cons run cut ih =>
      cases hargument : argument? run with
      | none =>
          rw [List.filterMap_cons_none hargument, List.filter_cons_of_neg (by simp [hargument]),
            ih]
      | some argument =>
          obtain ⟨-, -, rfl⟩ := argument?_eq_some_iff.mp hargument
          rw [List.filterMap_cons_some hargument, List.filter_cons_of_pos (by simp [hargument]),
            List.flatten_cons, runText_append, String.join_cons, ih]

/-- All arguments together are a part of what is not dropped. -/
theorem CutInto.join_sublist (h : CutInto (tokens line) cut) :
    (String.join (cut.filterMap argument?)).toList.Sublist (charsOutsideConstructs line) := by
  have hsome : (cut.filter fun run => (argument? run).isSome).flatten.Sublist (tokens line) :=
    List.filter_sublist.flatten.trans h.flatten_sublist
  rw [join_filterMap_argument?]
  apply (reads_readTokens 0 false line.toList).sublist_charsAt hsome
  intro u hu htext offset hoffset t ht hdropped htoffset
  obtain rfl := (inOrder_tokens line).eq_of_holds ht (hsome.subset hu) htoffset hoffset
  obtain ⟨run, hrun, hmem⟩ := List.mem_flatten.mp hu
  obtain ⟨hrun, hargument⟩ := List.mem_filter.mp hrun
  obtain ⟨argument, hargument⟩ := Option.isSome_iff_exists.mp hargument
  rcases hdropped with hexpansion | hbarrier
  · exact htext (Kind.literalText_of_isExpansion hexpansion)
  · rw [isBarrier_of_argument? (h.isInfix hrun).1 hargument hmem] at hbarrier
    cases hbarrier

end

/-- No text of an argument is made up, and none moves.  The arguments come from ranges of the
line, one for each and in order, that do not overlap; and all of them together come from the line
without its operators, redirections, processes, comments and globs, and without the variables and
commands outside quotes. -/
theorem arguments_from_line (line : String) :
    (∃ ranges : List Span, ranges.Pairwise (fun r s => r.stop ≤ s.start) ∧
      List.Forall₂ (ComesFrom line) ranges (arguments line)) ∧
    (String.join (arguments line)).toList.Sublist (charsOutsideConstructs line) := by
  obtain ⟨cut, hcut⟩ := exists_cutInto (tokens line)
  have harguments : arguments line = cut.filterMap argument? := hcut.assemble_eq
  rw [harguments]
  refine ⟨⟨cut.filterMap argumentSpan?, ?_, ?_⟩, hcut.join_sublist⟩
  · apply pairwise_argumentSpan?
    · exact (inOrder_tokens line).of_sublist hcut.flatten_sublist
    · intro run hrun
      exact (hcut.isInfix hrun).1.ne_nil
  · apply forall₂_argumentSpan?
    intro run hrun argument hargument
    obtain ⟨hfragments, hpart⟩ := hcut.isInfix hrun
    exact comesFrom_runSpan hfragments hpart hargument

/-- A comment, a glob, and what stands outside quotes to be expanded leave nothing behind. -/
example :
    String.ofList (charsOutsideConstructs "a\\b\"$x\\c\"$y;*d 'e' # f") = "a\\b\"$x\\c\" 'e' " ∧
      arguments "a\\b\"$x\\c\"$y;*d 'e' # f" = ["ab\\c", "e"] := by
  decide +kernel

end Command
end MetricsScript
