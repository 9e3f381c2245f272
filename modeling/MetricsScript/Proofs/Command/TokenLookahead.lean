import MetricsScript.Command.Lexer
import MetricsScript.Proofs.Command.Lookahead

/-!
# How far a token looks

Words, comments, operators and redirections look at the next character at most, and so does
every token that is made of them.  The one character that matters behind more than these is a
`$`: behind a `$` that stands alone it would make a parameter.
-/

namespace MetricsScript
namespace Command

/-! ## Words and comments -/

/-- A word ends before a character that ends words, or with the text. -/
theorem isWordBoundary_of_readWord
    {cs : List Char} {x : Char} {r : List Char} (h : (readWord cs).2 = x :: r) :
    isWordBoundary x = true := by
  fun_induction readWord cs <;> simp_all

theorem CanReplace.isWordBoundary
    {cs next : List Char} (h : CanReplace (readWord cs).2 next) :
    ∀ y ∈ next.head?, isWordBoundary y = true := by
  intro y hy
  cases next with
  | nil => cases hy
  | cons z r =>
      obtain rfl : z = y := by simpa using hy
      cases hrest : (readWord cs).2 with
      | nil => exact absurd hrest h.ne_nil
      | cons x s =>
          rw [hrest] at h
          rcases h with rfl | ⟨-, hneutral⟩
          · exact isWordBoundary_of_readWord hrest
          · exact isWordBoundary_of_isNeutral hneutral

theorem readWord_of_isWordBoundary
    {cs : List Char} (h : ∀ y ∈ cs.head?, isWordBoundary y = true) :
    readWord cs = (⟨[], false⟩, cs) := by
  fun_cases readWord cs with
  | case1 => rfl
  | case2 cs => exact absurd (h '\\' rfl) (by decide)
  | case3 cs => exact absurd (h '\\' rfl) (by decide)
  | case4 c cs => exact absurd (h '\\' rfl) (by decide)
  | case5 c cs => rfl
  | case6 c cs _ _ _ hboundary => exact absurd (h c rfl) hboundary

@[simp]
theorem readWord_lineFeed (cs : List Char) : readWord ('\\' :: '\n' :: cs) = readWord cs := rfl

@[simp]
theorem readWord_returnLineFeed (cs : List Char) :
    readWord ('\\' :: '\r' :: '\n' :: cs) = readWord cs := rfl

theorem readWord_escape
    {c : Char} {cs : List Char} (hfeed : c ≠ '\n')
    (hreturn : ∀ r, c = '\r' → cs ≠ '\n' :: r) :
    readWord ('\\' :: c :: cs) = ((readWord cs).1.cons c, (readWord cs).2) := by
  generalize hx : '\\' :: c :: cs = x
  fun_cases readWord x with
  | case1 => cases hx
  | case2 ds =>
      obtain ⟨rfl, -⟩ := List.cons.inj (List.cons.inj hx).2
      exact absurd rfl hfeed
  | case3 ds =>
      obtain ⟨rfl, rfl⟩ := List.cons.inj (List.cons.inj hx).2
      exact absurd rfl (hreturn ds rfl)
  | case4 d ds _ _ word rest hread =>
      obtain ⟨rfl, rfl⟩ := List.cons.inj (List.cons.inj hx).2
      rw [hread]
  | case5 d ds _ _ hescape =>
      obtain ⟨rfl, rfl⟩ := List.cons.inj hx
      exact (hescape c cs rfl rfl).elim
  | case6 d ds _ _ hescape =>
      obtain ⟨rfl, rfl⟩ := List.cons.inj hx
      exact (hescape c cs rfl rfl).elim

theorem readWord_plain
    {c : Char} {cs : List Char} (hslash : c ≠ '\\') (h : isWordBoundary c = false) :
    readWord (c :: cs) = ((readWord cs).1.consPlain c, (readWord cs).2) := by
  generalize hx : c :: cs = x
  fun_cases readWord x with
  | case1 => cases hx
  | case2 ds => exact absurd (List.cons.inj hx).1 hslash
  | case3 ds => exact absurd (List.cons.inj hx).1 hslash
  | case4 d ds => exact absurd (List.cons.inj hx).1 hslash
  | case5 d ds _ _ _ hboundary =>
      obtain ⟨rfl, rfl⟩ := List.cons.inj hx
      simp [h] at hboundary
  | case6 d ds _ _ _ _ word rest hread =>
      obtain ⟨rfl, rfl⟩ := List.cons.inj hx
      rw [hread]

theorem readWord_stable (cs : List Char) : Stable readWord cs := by
  fun_induction readWord cs with
  | case1 => exact ⟨[], rfl, fun next h => h.elim⟩
  | case2 cs ih =>
      exact ih.prepend ['\\', '\n'] (f := id) fun t => readWord_lineFeed t
  | case3 cs ih =>
      exact ih.prepend ['\\', '\r', '\n'] (f := id) fun t =>
        readWord_returnLineFeed t
  | case4 c cs hfeed hreturn _ _ _ ih =>
      obtain ⟨text, htext, hnext⟩ := ih
      refine ⟨'\\' :: c :: text, ?_, ?_⟩
      · rw [readWord_escape hfeed hreturn, List.cons_append, List.cons_append, ← htext]
      · rw [readWord_escape hfeed hreturn]
        intro next hreplace
        -- The escaped character is a return only if no line feed comes to stand behind it.
        have hreturn' : ∀ r, c = '\r' → text ++ next ≠ '\n' :: r := by
          intro r hc
          cases text with
          | nil =>
              refine hreplace.not_cons (by decide) (fun s hs => ?_) r
              exact hreturn s hc (htext.trans hs)
          | cons d ds =>
              intro heq
              obtain ⟨rfl, -⟩ := List.cons.inj heq
              exact hreturn _ hc htext
        rw [List.cons_append, List.cons_append, readWord_escape hfeed hreturn',
          hnext next hreplace]
  | case5 c cs _ _ _ hboundary =>
      have hread : readWord (c :: cs) = (⟨[], false⟩, c :: cs) :=
        readWord_of_isWordBoundary (by simpa using hboundary)
      refine ⟨[], by rw [hread]; rfl, fun next hreplace => ?_⟩
      have hnext := hreplace.isWordBoundary
      rw [List.nil_append, readWord_of_isWordBoundary hnext, hread]
  | case6 c cs hfeed hreturn hescape hboundary _ _ _ ih =>
      by_cases hslash : c = '\\'
      · subst hslash
        cases cs with
        | nil => exact ⟨['\\'], rfl, fun next h => h.elim⟩
        | cons d ds => exact (hescape d ds rfl rfl).elim
      · have hboundary : isWordBoundary c = false := by simpa using hboundary
        exact ih.prepend [c] (f := Word.consPlain c) fun t =>
          readWord_plain hslash hboundary

theorem readComment_stable (cs : List Char) : Stable readComment cs := by
  refine ⟨cs.takeWhile isCommentChar, List.takeWhile_append_dropWhile.symm, ?_⟩
  intro next hreplace
  obtain ⟨htake, hdrop⟩ := takeWhile_replace (fun c _ h => absurd h (by decide)) hreplace
  simp only [readComment, htake, hdrop]

/-! ## Operators -/

/-- An operator that is complete unless one of a few characters follows. -/
theorem stable_of_forall_head_ne
    {α : Type} {read : List Char → α × List Char} {cs : List Char} {k : α}
    (front more : List Char) (hmore : ∀ x ∈ more, isNeutral x = false)
    (hread : ∀ t : List Char, (∀ x ∈ more, ∀ r, t ≠ x :: r) → read (front ++ t) = (k, t))
    (hcs : ∀ x ∈ more, ∀ r, cs ≠ x :: r) :
    Stable read (front ++ cs) := by
  refine ⟨front, by rw [hread cs hcs], fun next hreplace => ?_⟩
  rw [hread cs hcs] at hreplace ⊢
  exact hread next fun x hx => hreplace.not_cons (hmore x hx) (hcs x hx)

theorem readAmpersand_stable (cs : List Char) : Stable readAmpersand cs := by
  fun_cases readAmpersand cs with
  | case1 cs => exact (Delimited.stop ['&'] fun _ => rfl).stable
  | case2 cs => exact (Delimited.stop ['>', '>'] fun _ => rfl).stable
  | case3 cs hout =>
      refine stable_of_forall_head_ne ['>'] (k := .redirectBoth false) ['>']
        (by simp [isNeutral]) (fun t ht => ?_) (by simpa using hout)
      simp_all [readAmpersand]
  | case4 cs hand _ hout =>
      refine stable_of_forall_head_ne [] (k := .control .background) ['&', '>']
        (by simp [isNeutral]) (fun t ht => ?_) (by simpa using ⟨hand, hout⟩)
      simp_all [readAmpersand]

theorem readPipe_stable (cs : List Char) : Stable readPipe cs := by
  fun_cases readPipe cs with
  | case1 cs => exact (Delimited.stop ['|'] fun _ => rfl).stable
  | case2 cs => exact (Delimited.stop ['&'] fun _ => rfl).stable
  | case3 cs hor hand =>
      refine stable_of_forall_head_ne [] (k := .control .pipe) ['|', '&']
        (by simp [isNeutral]) (fun t ht => ?_) (by simpa using ⟨hor, hand⟩)
      simp_all [readPipe]

theorem readSemicolon_stable (cs : List Char) : Stable readSemicolon cs := by
  fun_cases readSemicolon cs with
  | case1 cs => exact (Delimited.stop [';'] fun _ => rfl).stable
  | case2 cs hsemi =>
      refine stable_of_forall_head_ne [] (k := .control .semicolon) [';']
        (by simp [isNeutral]) (fun t ht => ?_) (by simpa using hsemi)
      simp_all [readSemicolon]

theorem readOutput_stable (descriptor : Option UInt32) (cs : List Char) :
    Stable (readOutput descriptor) cs := by
  fun_cases readOutput descriptor cs with
  | case1 cs => exact (Delimited.stop ['>'] fun _ => rfl).stable
  | case2 cs => exact (Delimited.stop ['&'] fun _ => rfl).stable
  | case3 cs => exact (Delimited.stop ['|'] fun _ => rfl).stable
  | case4 cs hout hand hor =>
      refine stable_of_forall_head_ne [] (k := .redirect descriptor .output)
        ['>', '&', '|'] (by simp [isNeutral]) (fun t ht => ?_) (by simpa using ⟨hout, hand, hor⟩)
      simp_all [readOutput]

/-- Behind a descriptor a parenthesis opens nothing. -/
theorem readInput_some_input
    {n : UInt32} {cs : List Char} (hin : ∀ r, cs ≠ '<' :: r) (hand : ∀ r, cs ≠ '&' :: r) :
    readInput (some n) cs = (.redirect (some n) .input, cs) := by
  cases cs with
  | nil => rfl
  | cons c r =>
      by_cases hparen : c = '('
      · subst hparen
        rfl
      · simp_all [readInput]

theorem readInput_some_stable
    {n : UInt32} {cs : List Char} (hin : ∀ r, cs ≠ '<' :: r) (hand : ∀ r, cs ≠ '&' :: r) :
    Stable (readInput (some n)) cs := by
  refine stable_of_forall_head_ne [] (k := .redirect (some n) .input) ['<', '&']
    (by simp [isNeutral]) (fun t ht => ?_) (by simpa using ⟨hin, hand⟩)
  exact readInput_some_input (ht '<' (by simp)) (ht '&' (by simp))

theorem readInput_stable (descriptor : Option UInt32) (cs : List Char) :
    Stable (readInput descriptor) cs := by
  fun_cases readInput descriptor cs with
  | case1 cs => exact (Delimited.stop ['<', '<'] fun _ => rfl).stable
  | case2 cs => exact (Delimited.stop ['<', '-'] fun _ => rfl).stable
  | case3 cs _ hstring hdash =>
      refine stable_of_forall_head_ne ['<'] (k := .redirect descriptor .hereDocument)
        ['<', '-'] (by simp [isNeutral]) (fun t ht => ?_) (by simpa using ⟨hstring, hdash⟩)
      simp_all [readInput]
  | case4 cs => exact (Delimited.stop ['&'] fun _ => rfl).stable
  | case5 cs body rest hread =>
      exact ((readBody_delimited parentheses 0 .bare cs).prepend ['(']
        (f := fun body => .processSubstitution (String.ofList body)) fun _ => rfl).stable
  | case6 cs n => exact readInput_some_stable (by simp) (by simp)
  | case7 cs _ _ _ hin hand hparen =>
      cases descriptor with
      | some n => exact readInput_some_stable hin hand
      | none =>
          refine stable_of_forall_head_ne [] (k := .redirect none .input)
            ['<', '&', '('] (by simp [isNeutral]) (fun t ht => ?_)
            (by simpa using ⟨hin, hand, hparen⟩)
          simp_all [readInput]

/-! ## Plain tokens -/

theorem readPlain_output
    {cs rest : List Char} {w : Word} {n : UInt32} (h : readWord cs = (w, '>' :: rest))
    (hn : descriptor? w.text = some n) : readPlain cs = readOutput (some n) rest := by
  simp [readPlain, h, hn]

theorem readPlain_input
    {cs rest : List Char} {w : Word} {n : UInt32} (h : readWord cs = (w, '<' :: rest))
    (hn : descriptor? w.text = some n) : readPlain cs = readInput (some n) rest := by
  simp [readPlain, h, hn]

/-- A word that is no descriptor, or that no redirection follows, is a token of its own. -/
theorem readPlain_word
    {cs rest : List Char} {w : Word} (h : readWord cs = (w, rest))
    (hrest : descriptor? w.text = none ∨
      (∀ r, rest ≠ '>' :: r) ∧ ∀ r, rest ≠ '<' :: r) :
    readPlain cs = (w.toKind, rest) := by
  unfold readPlain
  rw [h]
  split
  · next w' r heq =>
      cases heq
      rcases hrest with hnone | ⟨hout, -⟩
      · simp [hnone]
      · exact absurd rfl (hout r)
  · next w' r heq =>
      cases heq
      rcases hrest with hnone | ⟨-, hin⟩
      · simp [hnone]
      · exact absurd rfl (hin r)
  · next w' r _ _ heq =>
      cases heq
      rfl

/-- A plain token is its word, or a redirection of the descriptor that its word names. -/
theorem readPlain_cases (cs : List Char) :
    readPlain cs = ((readWord cs).1.toKind, (readWord cs).2) ∨
      (∃ n rest, readPlain cs = readOutput (some n) rest) ∨
      ∃ n rest, readPlain cs = readInput (some n) rest := by
  unfold readPlain
  split
  · next w rest hword =>
      split
      · next n _ => exact Or.inr (Or.inl ⟨n, rest, rfl⟩)
      · exact Or.inl (by rw [hword])
  · next w rest hword =>
      split
      · next n _ => exact Or.inr (Or.inr ⟨n, rest, rfl⟩)
      · exact Or.inl (by rw [hword])
  · next w rest _ _ hword => exact Or.inl (by rw [hword])

/-- A redirection behind its descriptor is read as the redirection alone is. -/
theorem readPlain_stable_of_redirect
    {read : List Char → Kind × List Char} {cs rest : List Char} {w : Word} {x : Char}
    (hword : readWord cs = (w, x :: rest))
    (hplain : ∀ t r, readWord t = (w, x :: r) → readPlain t = read r)
    (h : Stable read rest) : Stable readPlain cs := by
  obtain ⟨text, htext, hnext⟩ := readWord_stable cs
  obtain ⟨more, hmore, hread⟩ := h
  rw [hword] at htext hnext
  refine ⟨text ++ x :: more, ?_, ?_⟩
  · rw [hplain cs rest hword, List.append_assoc, List.cons_append, ← hmore]
    exact htext
  · rw [hplain cs rest hword]
    intro next hreplace
    have hfront := hnext (x :: (more ++ next)) (Or.inl rfl)
    rw [List.append_assoc, List.cons_append, hplain _ _ hfront, hread next hreplace]

theorem readPlain_stable (cs : List Char) : Stable readPlain cs := by
  obtain ⟨text, htext, hnext⟩ := readWord_stable cs
  obtain ⟨w, rest, hword⟩ : ∃ w rest, readWord cs = (w, rest) := ⟨_, _, rfl⟩
  rw [hword] at htext hnext
  by_cases hrest : descriptor? w.text = none ∨
      (∀ r, rest ≠ '>' :: r) ∧ ∀ r, rest ≠ '<' :: r
  · refine ⟨text, ?_, ?_⟩
    · rw [readPlain_word hword hrest]
      exact htext
    · rw [readPlain_word hword hrest]
      intro next hreplace
      refine readPlain_word (hnext next hreplace) (hrest.imp id fun h => ⟨?_, ?_⟩)
      · exact hreplace.not_cons (by decide) h.1
      · exact hreplace.not_cons (by decide) h.2
  · obtain ⟨hsome, hredirect⟩ := not_or.mp hrest
    obtain ⟨n, hn⟩ := Option.ne_none_iff_exists'.mp hsome
    cases rest with
    | nil => simp at hredirect
    | cons x r =>
        by_cases hout : x = '>'
        · subst hout
          exact readPlain_stable_of_redirect hword
            (fun t r ht => readPlain_output ht hn) (readOutput_stable (some n) r)
        · have hin : x = '<' := by simpa [hout] using hredirect
          subst hin
          exact readPlain_stable_of_redirect hword
            (fun t r ht => readPlain_input ht hn) (readInput_stable (some n) r)

/-! ## Tokens -/

/-- What a `$` opens is read the same before another rest.  Behind a `$` that stands alone the
rest must not newly start with a second `$`. -/
theorem readDollar_replace (cs : List Char) :
    ∃ text, cs = text ++ (readDollar cs).2 ∧
      ∀ next, CanReplace (readDollar cs).2 next →
        (text = [] → next.head? = some '$' → (readDollar cs).2.head? = some '$') →
          readDollar (text ++ next) = ((readDollar cs).1, next) := by
  cases hexpansion : readExpansion cs with
  | some read =>
      obtain ⟨e, rest⟩ := read
      obtain ⟨text, htext, hnext⟩ := readExpansion_replace hexpansion
      cases e with
      | parameter name =>
          simp only [readDollar, hexpansion]
          exact ⟨text, htext, fun next hreplace _ => by simp [hnext next hreplace]⟩
      | substitution content =>
          simp only [readDollar, hexpansion]
          exact ⟨text, htext, fun next hreplace _ => by simp [hnext next hreplace]⟩
  | none =>
      obtain ⟨text, htext, hnext⟩ := readWord_stable cs
      simp only [readDollar, hexpansion]
      refine ⟨text, htext, fun next hreplace hdollar => ?_⟩
      have hnone : readExpansion (text ++ next) = none := by
        cases text with
        | nil =>
            rw [List.nil_append] at htext
            rw [← htext] at hreplace hdollar
            refine readExpansion_none_replace hexpansion hreplace fun hnext => ?_
            have hspecial := readExpansion_eq_none_iff.mp hexpansion '$' (hdollar rfl hnext)
            exact absurd hspecial (by decide)
        | cons d ds =>
            rw [readExpansion_eq_none_iff] at hexpansion ⊢
            rw [htext] at hexpansion
            exact hexpansion
      simp only [hnone, hnext next hreplace]

/-- A reader that is given its first character apart. -/
theorem Stable.tail
    {α : Type} {read : List Char → α × List Char} {c : Char} {cs : List Char}
    (h : Stable read (c :: cs)) (hlt : (read (c :: cs)).2.length ≤ cs.length) :
    Stable (fun t => read (c :: t)) cs := by
  obtain ⟨text, htext, hnext⟩ := h
  cases text with
  | nil =>
      rw [List.nil_append] at htext
      rw [← htext] at hlt
      exact absurd hlt (Nat.not_succ_le_self _)
  | cons d ds =>
      obtain ⟨rfl, hds⟩ := List.cons.inj htext
      exact ⟨ds, hds, hnext⟩

/-- The characters that a token of one fixed form begins with. -/
def opensForm (c : Char) : Bool :=
  c == '&' || c == '|' || c == ';' || c == '(' || c == ')' || c == '>' || c == '<' ||
    c == '$' || c == '\x60' || c == '\'' || c == '"'

theorem isWordBoundary_iff {c : Char} :
    isWordBoundary c = true ↔ isSeparator c = true ∨ opensForm c = true := by
  simp only [isWordBoundary, opensForm, Bool.or_eq_true]
  grind

/-- A character inside a word neither separates tokens nor opens a form. -/
theorem isWordBoundary_eq_false_iff {c : Char} :
    isWordBoundary c = false ↔ isSeparator c = false ∧ opensForm c = false := by
  simp only [← Bool.not_eq_true, isWordBoundary_iff, not_or]

/-- Every other token is a plain one, unless a `#` makes it a comment. -/
theorem readToken_plain
    {glued : Bool} {c : Char} (hform : opensForm c = false) (hcomment : c = '#' → glued = true)
    (cs : List Char) : readToken glued c cs = readPlain (c :: cs) := by
  simp only [opensForm, Bool.or_eq_false_iff, beq_eq_false_iff_ne, ne_eq] at hform
  have hcomment : ¬(decide (c = '#') && !glued) = true := by
    simpa using hcomment
  simp only [readToken, hcomment, hform, Bool.false_eq_true, if_false]

/-- The first character of a token says how the rest of it is read. -/
inductive ReadBy (glued : Bool) : Char → (List Char → Kind × List Char) → Prop
  | comment : glued = false → ReadBy glued '#' readComment
  | ampersand : ReadBy glued '&' readAmpersand
  | pipe : ReadBy glued '|' readPipe
  | semicolon : ReadBy glued ';' readSemicolon
  | openParen : ReadBy glued '(' fun cs => (.control .openParen, cs)
  | closeParen : ReadBy glued ')' fun cs => (.control .closeParen, cs)
  | output : ReadBy glued '>' (readOutput none)
  | input : ReadBy glued '<' (readInput none)
  | dollar : ReadBy glued '$' readDollar
  | backticks : ReadBy glued '\x60' fun cs =>
      (.fragment (.substitution (String.ofList (readBackticks cs).1) true), (readBackticks cs).2)
  | singleQuoted : ReadBy glued '\'' fun cs =>
      (.fragment (.singleQuoted (String.ofList (readSingleQuoted cs).1)), (readSingleQuoted cs).2)
  | doubleQuoted : ReadBy glued '"' fun cs =>
      (.fragment (.doubleQuoted (QuotedPart.ofPieces (readDoubleQuoted cs).1)),
        (readDoubleQuoted cs).2)
  | plain {c : Char} :
      opensForm c = false → (c = '#' → glued = true) → ReadBy glued c fun cs => readPlain (c :: cs)

theorem readBy_readToken (glued : Bool) (c : Char) : ReadBy glued c (readToken glued c) := by
  by_cases hcomment : c = '#' ∧ glued = false
  · obtain ⟨rfl, rfl⟩ := hcomment
    exact .comment rfl
  cases hform : opensForm c with
  | true =>
      simp only [opensForm, Bool.or_eq_true, beq_iff_eq, or_assoc] at hform
      rcases hform with rfl | rfl | rfl | rfl | rfl | rfl | rfl | rfl | rfl | rfl | rfl
      · exact .ampersand
      · exact .pipe
      · exact .semicolon
      · exact .openParen
      · exact .closeParen
      · exact .output
      · exact .input
      · exact .dollar
      · exact .backticks
      · exact .singleQuoted
      · exact .doubleQuoted
  | false =>
      have hglued : c = '#' → glued = true := by simpa using hcomment
      have hplain : readToken glued c = fun cs => readPlain (c :: cs) := by
        funext cs
        exact readToken_plain hform hglued cs
      rw [hplain]
      exact .plain hform hglued

theorem readToken_stable
    (glued : Bool) {c : Char} (cs : List Char) (hseparator : isSeparator c = false)
    (hdollar : c ≠ '$') : Stable (readToken glued c) cs := by
  have hread := readBy_readToken glued c
  generalize readToken glued c = read at hread
  cases hread with
  | comment _ => exact readComment_stable cs
  | ampersand => exact readAmpersand_stable cs
  | pipe => exact readPipe_stable cs
  | semicolon => exact readSemicolon_stable cs
  | openParen => exact (Delimited.stop [] fun _ => rfl).stable
  | closeParen => exact (Delimited.stop [] fun _ => rfl).stable
  | output => exact readOutput_stable none cs
  | input => exact readInput_stable none cs
  | dollar => exact absurd rfl hdollar
  | backticks =>
      exact ((readBackticks_delimited cs).prepend []
        (f := fun content => .fragment (.substitution (String.ofList content) true))
        fun _ => rfl).stable
  | singleQuoted =>
      exact ((readSingleQuoted_delimited cs).prepend []
        (f := fun text => .fragment (.singleQuoted (String.ofList text)))
        fun _ => rfl).stable
  | doubleQuoted =>
      exact ((readDoubleQuoted_delimited cs).prepend []
        (f := fun pieces => .fragment (.doubleQuoted (QuotedPart.ofPieces pieces)))
        fun _ => rfl).stable
  | plain hform _ =>
      have hboundary := isWordBoundary_eq_false_iff.mpr ⟨hseparator, hform⟩
      refine (readPlain_stable (c :: cs)).tail ?_
      have hword := readWord_rest_lt hboundary cs
      exact Nat.le_of_lt_succ (Nat.lt_of_le_of_lt (readPlain_rest_le _) hword)

/-- A token is read the same before any rest that can replace the one that was left.  Behind
a `$` the rest must not newly start with another one. -/
theorem readToken_replace
    (glued : Bool) {c : Char} (cs : List Char) (hseparator : isSeparator c = false) :
    ∃ text, cs = text ++ (readToken glued c cs).2 ∧
      ∀ next, CanReplace (readToken glued c cs).2 next →
        ((c :: text).getLast? = some '$' → next.head? = some '$' →
          (readToken glued c cs).2.head? = some '$') →
          readToken glued c (text ++ next) = ((readToken glued c cs).1, next) := by
  by_cases hdollar : c = '$'
  · subst hdollar
    obtain ⟨text, htext, hnext⟩ := readDollar_replace cs
    refine ⟨text, htext, fun next hreplace hlast => hnext next hreplace fun hnil => ?_⟩
    exact hlast (by simp [hnil])
  · obtain ⟨text, htext, hnext⟩ := readToken_stable glued cs hseparator hdollar
    exact ⟨text, htext, fun next hreplace _ => hnext next hreplace⟩

end Command
end MetricsScript
