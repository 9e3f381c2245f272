import MetricsScript.Proofs.Command.Runs
import MetricsScript.Proofs.Command.TrailingBlanks

/-!
# Tokens left open at the end of a line

Of the tokens that take blanks behind their line only a few let the arguments see them: those in
which the blanks become literal text.  `Kind.LeftOpen` says so of a token and of the text that it
is read from.
-/

namespace MetricsScript
namespace Command

/-- A fragment is left open at the end of the text it is read from: what comes behind that text
is literal text of the fragment. -/
def Fragment.LeftOpen : Fragment → List Char → Prop
  | .word _, source => endsEscaping source = true
  | .singleQuoted _, source => '\'' ∉ source.tail
  | .doubleQuoted _, source => QuotedOpen source.tail
  | .glob _, _ | .parameter _, _ | .substitution _ _, _ => False

/-- A token is left open at the end of the text it is read from. -/
def Kind.LeftOpen : Kind → List Char → Prop
  | .fragment f, source => f.LeftOpen source
  | _, _ => False

/-- What a token becomes that takes some of the blanks behind its text.  It stays what it is for
its argument, and an argument without a glob tells the two apart exactly if the token was left
open. -/
structure Kind.Becomes (kind : Kind) (source : List Char) (next : Kind) : Prop where
  isFragment : next.isFragment = kind.isFragment
  isLiteral : next.isLiteral = kind.isLiteral
  isGlob : next.isGlob = kind.isGlob
  literalText : kind.isGlob = false →
    (next.literalText = kind.literalText ↔ ¬kind.LeftOpen source)

variable {blanks : List Char}

/-- What a token that runs to the end of its text leaves of the blanks behind it is the end of
these blanks. -/
theorem readToken_append_blanks_suffix
    {glued : Bool} {c : Char} {text : List Char} {kind : Kind}
    (hseparator : isSeparator c = false) (h : readToken glued c text = (kind, [])) :
    (readToken glued c (text ++ blanks)).2 <:+ blanks := by
  obtain ⟨front, hfront, hreplace⟩ :=
    readToken_replace glued (text ++ blanks) hseparator
  generalize readToken glued c (text ++ blanks) = read at hfront hreplace
  obtain ⟨next, rest⟩ := read
  rcases append_eq_cases hfront with ⟨more, -, hblanks⟩ | ⟨x, more, rfl, hrest⟩
  · exact ⟨more, hblanks.symm⟩
  · -- The token would end inside the text, and so would the one without blanks behind it.
    simp only at hrest hreplace
    subst hrest
    have hread := hreplace (x :: more) (Or.inl rfl) fun _ hhead => hhead
    rw [h] at hread
    cases hread

theorem Kind.LeftOpen.isLiteral
    {kind : Kind} {source : List Char} (h : kind.LeftOpen source) : kind.isLiteral = true := by
  cases kind with
  | fragment f =>
      cases f with
      | word text | singleQuoted text | doubleQuoted parts => rfl
      | glob text | parameter name => exact h.elim
      | substitution content backtick => exact h.elim
  | _ => exact h.elim

theorem Kind.LeftOpen.isGlob
    {kind : Kind} {source : List Char} (h : kind.LeftOpen source) : kind.isGlob = false := by
  cases kind with
  | fragment f =>
      cases f with
      | glob text => exact h.elim
      | _ => rfl
  | _ => rfl

theorem Kind.literalText_of_not_literal
    {kind : Kind} (h : kind.isLiteral = false) (hglob : kind.isGlob = false) :
    kind.literalText = "" := by
  cases kind with
  | fragment f =>
      cases f with
      | word text | singleQuoted text | doubleQuoted parts => cases h
      | glob text => cases hglob
      | parameter name => rfl
      | substitution content backtick => rfl
  | _ => rfl

section
variable {kind next : Kind} {source : List Char}

theorem Kind.becomes_of_not_literal
    (hfragment : next.isFragment = kind.isFragment)
    (h : kind.isLiteral = false ∧ kind.isGlob = false)
    (hnext : next.isLiteral = false ∧ next.isGlob = false) : kind.Becomes source next where
  isFragment := hfragment
  isLiteral := hnext.1.trans h.1.symm
  isGlob := hnext.2.trans h.2.symm
  literalText _ := by
    have hclosed : ¬kind.LeftOpen source := by
      intro hopen
      rw [hopen.isLiteral] at h
      cases h.1
    have htext := Kind.literalText_of_not_literal h.1 h.2
    have hnextText := Kind.literalText_of_not_literal hnext.1 hnext.2
    exact ⟨fun _ => hclosed, fun _ => hnextText.trans htext.symm⟩

theorem Kind.becomes_of_not_fragment
    (h : kind.isFragment = false) (hnext : next.isFragment = false) :
    kind.Becomes source next := by
  have hsilent : ∀ {k : Kind}, k.isFragment = false → k.isLiteral = false ∧ k.isGlob = false := by
    intro k hk
    cases k with
    | fragment f => cases hk
    | _ => exact ⟨rfl, rfl⟩
  exact Kind.becomes_of_not_literal (hnext.trans h.symm) (hsilent h) (hsilent hnext)

end

theorem isFragment_readAmpersand (cs : List Char) : (readAmpersand cs).1.isFragment = false := by
  fun_cases readAmpersand cs <;> rfl

theorem isFragment_readPipe (cs : List Char) : (readPipe cs).1.isFragment = false := by
  fun_cases readPipe cs <;> rfl

theorem isFragment_readSemicolon (cs : List Char) :
    (readSemicolon cs).1.isFragment = false := by
  fun_cases readSemicolon cs <;> rfl

theorem isFragment_readOutput (descriptor : Option UInt32) (cs : List Char) :
    (readOutput descriptor cs).1.isFragment = false := by
  fun_cases readOutput descriptor cs <;> rfl

theorem isFragment_readInput (descriptor : Option UInt32) (cs : List Char) :
    (readInput descriptor cs).1.isFragment = false := by
  fun_cases readInput descriptor cs <;> rfl

theorem Word.Becomes.toKind
    {w next : Word} {source : List Char} (h : w.Becomes (endsEscaping source) next) :
    w.toKind.Becomes source next.toKind := by
  obtain ⟨text, glob⟩ := w
  obtain ⟨nextText, nextGlob⟩ := next
  obtain ⟨hglob, htext⟩ := h
  simp only at hglob htext
  subst hglob
  cases nextGlob with
  | true => exact ⟨rfl, rfl, rfl, fun hglob => by cases hglob⟩
  | false =>
      refine ⟨rfl, rfl, rfl, fun _ => ?_⟩
      have hclosed : ¬endsEscaping source = true ↔ endsEscaping source = false := by simp
      exact String.ofList_inj.trans (htext.trans hclosed.symm)

/-- A word that runs to the end of the text is a word before blanks as well. -/
theorem readPlain_append_blanks_word
    {cs : List Char} (h : (readWord cs).2 = []) (hblanks : IsBlanks blanks) :
    (readPlain cs).1.Becomes cs (readPlain (cs ++ blanks)).1 := by
  obtain ⟨hword, hrest⟩ := readWord_append_blanks h hblanks
  have hplain : ∀ {ds : List Char}, (∀ c ∈ (readWord ds).2, isLineBlank c = true) →
      readPlain ds = ((readWord ds).1.toKind, (readWord ds).2) := by
    intro ds hds
    refine readPlain_word rfl (Or.inr ⟨?_, ?_⟩)
    · intro r hr
      exact absurd (hds '>' (by simp [hr])) (by decide)
    · intro r hr
      exact absurd (hds '<' (by simp [hr])) (by decide)
  have hend : ∀ c ∈ (readWord cs).2, isLineBlank c = true := by simp [h]
  rw [hplain hend, hplain hrest]
  exact hword.toKind

/-- A word with something behind it makes a whole text one token only as the descriptor of a
redirection. -/
theorem readPlain_append_blanks
    {cs : List Char} (h : (readPlain cs).2 = []) (hblanks : IsBlanks blanks) :
    (readPlain cs).1.Becomes cs (readPlain (cs ++ blanks)).1 := by
  cases hrest : (readWord cs).2 with
  | nil => exact readPlain_append_blanks_word hrest hblanks
  | cons x rest =>
      have hword : readWord cs = ((readWord cs).1, x :: rest) := by rw [← hrest]
      obtain ⟨text, htext, hreplace⟩ := readWord_stable cs
      rw [hrest] at htext hreplace
      have hnext : readWord (cs ++ blanks) = ((readWord cs).1, x :: (rest ++ blanks)) := by
        have := hreplace (x :: (rest ++ blanks)) (Or.inl rfl)
        rwa [← List.cons_append, ← List.append_assoc, ← htext] at this
      cases hdescriptor : descriptor? (readWord cs).1.text with
      | none =>
          rw [readPlain_word hword (Or.inl hdescriptor)] at h
          cases h
      | some n =>
          by_cases hout : x = '>'
          · subst hout
            rw [readPlain_output hword hdescriptor, readPlain_output hnext hdescriptor]
            exact Kind.becomes_of_not_fragment (isFragment_readOutput _ _)
              (isFragment_readOutput _ _)
          by_cases hin : x = '<'
          · subst hin
            rw [readPlain_input hword hdescriptor, readPlain_input hnext hdescriptor]
            exact Kind.becomes_of_not_fragment (isFragment_readInput _ _)
              (isFragment_readInput _ _)
          · rw [readPlain_word hword (Or.inr ⟨by simp [hout], by simp [hin]⟩)] at h
            cases h

/-- An expansion is a fragment without literal text. -/
theorem readDollar_of_some
    {cs rest : List Char} {e : Expansion} (h : readExpansion cs = some (e, rest)) :
    (readDollar cs).1.isFragment = true ∧
      (readDollar cs).1.isLiteral = false ∧ (readDollar cs).1.isGlob = false ∧
      (readDollar cs).2 = rest := by
  cases e with
  | parameter name =>
      simp only [readDollar, h]
      exact ⟨rfl, rfl, rfl, trivial⟩
  | substitution content =>
      simp only [readDollar, h]
      exact ⟨rfl, rfl, rfl, trivial⟩

theorem readDollar_of_none {cs : List Char} (h : readExpansion cs = none) :
    readDollar cs = (((readWord cs).1.cons '$').toKind, (readWord cs).2) := by
  simp only [readDollar, h]

theorem readDollar_append_blanks
    {cs : List Char} (h : (readDollar cs).2 = []) (hblanks : IsBlanks blanks) :
    (readDollar cs).1.Becomes ('$' :: cs) (readDollar (cs ++ blanks)).1 := by
  cases hexpansion : readExpansion cs with
  | some read =>
      obtain ⟨e, rest⟩ := read
      obtain ⟨hfragment, hliteral, hglob, hrest⟩ := readDollar_of_some hexpansion
      obtain rfl : rest = [] := hrest.symm.trans h
      obtain ⟨next, left, hnext⟩ :
          ∃ next left, readExpansion (cs ++ blanks) = some (next, left) := by
        rcases expansionAtEnd hexpansion with hends | hruns
        · exact ⟨e, blanks, hends blanks hblanks⟩
        · obtain ⟨next, hnext⟩ := hruns blanks hblanks
          exact ⟨next, [], hnext⟩
      obtain ⟨hfragment', hliteral', hglob', -⟩ := readDollar_of_some hnext
      exact Kind.becomes_of_not_literal (hfragment'.trans hfragment.symm) ⟨hliteral, hglob⟩
        ⟨hliteral', hglob'⟩
  | none =>
      have hnone := readExpansion_append_blanks_none hexpansion hblanks
      rw [readDollar_of_none hexpansion] at h ⊢
      rw [readDollar_of_none hnone]
      obtain ⟨hword, -⟩ := readWord_append_blanks h hblanks
      have hescaping : endsEscaping ('$' :: cs) = endsEscaping cs :=
        endsEscaping_cons (by decide) cs
      rw [← hescaping] at hword
      exact (hword.cons '$').toKind

theorem readSingleQuoted_append_blanks
    {cs : List Char} (h : (readSingleQuoted cs).2 = []) (hblanks : IsBlanks blanks) :
    (Kind.fragment (.singleQuoted (String.ofList (readSingleQuoted cs).1))).Becomes
      ('\'' :: cs)
      (.fragment (.singleQuoted (String.ofList (readSingleQuoted (cs ++ blanks)).1))) := by
  refine ⟨rfl, rfl, rfl, fun _ => ?_⟩
  refine String.ofList_inj.trans ?_
  change _ ↔ ¬ '\'' ∉ cs
  by_cases hquote : '\'' ∈ cs
  · rw [readSingleQuoted_append_blanks_closed hquote h]
    simp [hquote]
  · have hnext : '\'' ∉ cs ++ blanks := by
      intro hmem
      rcases List.mem_append.mp hmem with hcs | hin
      · exact hquote hcs
      · exact absurd (hblanks.all _ hin) (by decide)
    rw [readSingleQuoted_open hquote, readSingleQuoted_open hnext]
    simp [hquote, hblanks.ne_nil]

theorem readDoubleQuoted_append_blanks
    {cs : List Char} (h : (readDoubleQuoted cs).2 = []) (hblanks : IsBlanks blanks) :
    (Kind.fragment (.doubleQuoted (QuotedPart.ofPieces (readDoubleQuoted cs).1))).Becomes
      ('"' :: cs)
      (.fragment (.doubleQuoted
        (QuotedPart.ofPieces (readDoubleQuoted (cs ++ blanks)).1))) := by
  refine ⟨rfl, rfl, rfl, fun _ => ?_⟩
  rw [Kind.literalText, Kind.literalText, literalText_doubleQuoted, literalText_doubleQuoted]
  refine String.ofList_inj.trans ?_
  change quotedLiteral (cs ++ blanks) = quotedLiteral cs ↔ ¬QuotedOpen cs
  constructor
  · intro heq hopen
    rw [quotedLiteral, hopen.readDoubleQuoted_append hblanks, List.flatMap_append,
      flatMap_literal_map_char, ← quotedLiteral, List.append_right_eq_self] at heq
    exact hblanks.ne_nil heq
  · intro hclosed
    exact (quotedOpen_or_quotedLiteral_append h hblanks).resolve_left hclosed

/-- What becomes of a token of the whole text when blanks come behind that text. -/
theorem readToken_append_blanks
    {glued : Bool} {c : Char} {text : List Char}
    (h : (readToken glued c text).2 = []) (hblanks : IsBlanks blanks) :
    (readToken glued c text).1.Becomes (c :: text) (readToken glued c (text ++ blanks)).1 := by
  have hread := readBy_readToken glued c
  generalize readToken glued c = read at h hread ⊢
  cases hread with
  | comment _ => exact Kind.becomes_of_not_fragment rfl rfl
  | ampersand =>
      exact Kind.becomes_of_not_fragment (isFragment_readAmpersand _) (isFragment_readAmpersand _)
  | pipe => exact Kind.becomes_of_not_fragment (isFragment_readPipe _) (isFragment_readPipe _)
  | semicolon =>
      exact Kind.becomes_of_not_fragment (isFragment_readSemicolon _) (isFragment_readSemicolon _)
  | openParen => exact Kind.becomes_of_not_fragment rfl rfl
  | closeParen => exact Kind.becomes_of_not_fragment rfl rfl
  | output =>
      exact Kind.becomes_of_not_fragment (isFragment_readOutput _ _) (isFragment_readOutput _ _)
  | input =>
      exact Kind.becomes_of_not_fragment (isFragment_readInput _ _) (isFragment_readInput _ _)
  | dollar => exact readDollar_append_blanks h hblanks
  | backticks => exact Kind.becomes_of_not_literal rfl ⟨rfl, rfl⟩ ⟨rfl, rfl⟩
  | singleQuoted => exact readSingleQuoted_append_blanks h hblanks
  | doubleQuoted => exact readDoubleQuoted_append_blanks h hblanks
  | plain _ _ => exact readPlain_append_blanks h hblanks

end Command
end MetricsScript
