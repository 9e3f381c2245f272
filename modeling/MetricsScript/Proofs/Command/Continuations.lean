import MetricsScript.Proofs.Command.Concatenation
import MetricsScript.Proofs.Command.Trimming

/-!
# Line continuations

A backslash before a line break joins two lines.  Inside a word it leaves no trace: what stands
behind it goes on with the word.  Behind quotes and expansions the reader takes it for a gap, and
a gap ends an argument.  So a continuation is invisible to the arguments behind a plain word, and
parts them behind every other fragment.
-/

namespace MetricsScript
namespace Command

/-- The two spellings of a backslash that joins lines. -/
inductive Continuation where
  | lineFeed
  | returnLineFeed
deriving DecidableEq, Repr

def Continuation.chars : Continuation → List Char
  | .lineFeed => ['\\', '\n']
  | .returnLineFeed => ['\\', '\r', '\n']

def Continuation.text (k : Continuation) : String :=
  String.ofList k.chars

/-- The fragments without quotes and without an expansion. -/
def Kind.isPlain : Kind → Bool
  | .fragment (.word _) | .fragment (.glob _) => true
  | _ => false

/-- The text does not begin with a character of a line break. -/
def StartsInLine (next : List Char) : Prop :=
  ∀ c ∈ next.head?, c ≠ '\n' ∧ c ≠ '\r'

variable {pos : Nat} {glued : Bool} {c : Char} {cs text next : List Char} {ts : List Token}
  {kind : Kind}

theorem Continuation.isGap (k : Continuation) : IsGap k.chars := by
  cases k with
  | lineFeed => exact .lineFeed .nil
  | returnLineFeed => exact .returnLineFeed .nil

theorem Continuation.head?_append (k : Continuation) (next : List Char) :
    (k.chars ++ next).head? = some '\\' := by
  cases k with
  | lineFeed => rfl
  | returnLineFeed => rfl

theorem Continuation.startsInLine (k : Continuation) (next : List Char) :
    StartsInLine (k.chars ++ next) := by
  intro c hc
  rw [k.head?_append] at hc
  obtain rfl := Option.some.inj hc
  decide

theorem startsInLine_space : StartsInLine [' '] := by
  intro c hc
  obtain rfl := Option.some.inj hc
  decide

theorem startsInLine_of_not_separator (h : ∀ c ∈ next.head?, isSeparator c = false) :
    StartsInLine next := by
  intro c hc
  constructor
  · rintro rfl
    exact absurd (h _ hc) (by decide)
  · rintro rfl
    exact absurd (h _ hc) (by decide)

theorem StartsToken.append_inLine (h : StartsToken (c :: cs)) (hnext : StartsInLine next) :
    StartsToken (c :: (cs ++ next)) := by
  refine h.append_of_ne ?_ ?_
  · rintro s rfl
    exact (hnext '\n' rfl).1 rfl
  · rintro s rfl
    exact (hnext '\r' rfl).2 rfl

/-! ## The last token of a text -/

/-- The text `before ++ c :: source` ends with the token `last`, which is read from `c :: source`,
and has the tokens `front` before it.  What comes behind the text is read from `c` on. -/
structure EndsWith (pos : Nat) (glued : Bool) (front : List Token) (last : Token)
    (before : List Char) (behind : Bool) (c : Char) (source : List Char) : Prop where
  startsToken : StartsToken (c :: source)
  span_eq : last.span = ⟨pos + Text.byteLength before,
    pos + Text.byteLength before + Text.byteLength (c :: source)⟩
  append : ∀ next, StartsInLine next →
    readTokens pos glued (before ++ c :: source ++ next) =
      front ++ readTokens (pos + Text.byteLength before) behind (c :: (source ++ next))

/-- A gap is skipped, and what comes behind it touches nothing. -/
theorem readTokens_append_gap {gap : List Char} (hgap : IsGap gap) (pos : Nat) (glued : Bool)
    (cs : List Char) :
    readTokens pos glued (gap ++ cs) =
      readTokens (pos + Text.byteLength gap) (glued && gap.isEmpty) cs := by
  by_cases hne : gap = []
  · subst hne
    simp
  · rw [readTokens_gap hgap hne, List.isEmpty_eq_false_iff.mpr hne, Bool.and_false]

theorem EndsWith.cons
    {gap rest before source : List Char} {d : Char} {front : List Token} {last : Token}
    {behind : Bool} (hgap : IsGap gap) (hstart : StartsToken (c :: (text ++ rest)))
    (hread : readToken (glued && gap.isEmpty) c (text ++ rest) = (kind, rest))
    (hrest : rest = before ++ d :: source)
    (h : EndsWith (pos + Text.byteLength gap + Text.byteLength (c :: text)) kind.isFragment
      front last before behind d source) :
    EndsWith pos glued
      (⟨kind, ⟨pos + Text.byteLength gap,
        pos + Text.byteLength gap + Text.byteLength (c :: text)⟩⟩ :: front) last
      (gap ++ c :: text ++ before) behind d source where
  startsToken := h.startsToken
  span_eq := by
    rw [h.span_eq]
    simp only [Text.byteLength_append, Nat.add_assoc]
  append := by
    intro next hnext
    have hne : rest ≠ [] := by simp [hrest]
    have hbegin := hstart.append_inLine hnext
    rw [List.append_assoc] at hbegin
    have htoken := readTokens_token pos glued hgap hbegin
      (readToken_append_of_ne_nil hstart.isSeparator hread hne next)
    have hwhole : gap ++ c :: text ++ before ++ d :: source ++ next =
        gap ++ c :: (text ++ (rest ++ next)) := by simp [hrest]
    rw [hwhole, htoken, hrest, h.append next hnext, List.cons_append]
    simp only [Text.byteLength_append, Nat.add_assoc]

/-- A text whose last token ends where the text does ends with that token. -/
theorem Reads.exists_endsWith
    (h : Reads pos glued cs ts) {last : Token} (hlast : last ∈ ts.getLast?)
    (hstop : last.span.stop = pos + Text.byteLength cs) :
    ∃ front before behind c source, cs = before ++ c :: source ∧ ts = front ++ [last] ∧
      EndsWith pos glued front last before behind c source := by
  induction h with
  | done _ => cases hlast
  | @token pos glued gap c text rest kind ts hgap hstart hread _ ih =>
      cases ts with
      | nil =>
          obtain rfl := Option.some.inj hlast
          have hnil : rest = [] := by
            have hwidth : pos + Text.byteLength gap + Text.byteLength (c :: text) =
                pos + Text.byteLength (gap ++ c :: (text ++ rest)) := hstop
            simp only [Text.byteLength_append, Text.byteLength_cons] at hwidth
            exact Text.byteLength_eq_zero_iff.mp (by omega)
          subst hnil
          rw [List.append_nil] at hstart ⊢
          refine ⟨[], gap, glued && gap.isEmpty, c, text, rfl, rfl, hstart, rfl, ?_⟩
          intro next _
          rw [List.append_assoc, readTokens_append_gap hgap, List.cons_append, List.nil_append]
      | cons t ts =>
          rw [List.getLast?_cons_cons] at hlast
          have hwidth : last.span.stop =
              pos + Text.byteLength gap + Text.byteLength (c :: text) + Text.byteLength rest := by
            rw [hstop]
            simp only [Text.byteLength_append, Text.byteLength_cons]
            omega
          obtain ⟨front, before, behind, d, source, hrest, hts, hends⟩ := ih hlast hwidth
          rw [hts]
          refine ⟨_, gap ++ c :: text ++ before, behind, d, source, ?_, rfl,
            hends.cons hgap hstart hread hrest⟩
          simp [hrest]

/-- The token that begins a text. -/
theorem readTokens_cons
    (pos : Nat) {rest : List Char} (hstart : StartsToken (c :: cs))
    (hread : readToken glued c cs = (kind, rest)) :
    ∃ taken, cs = taken ++ rest ∧
      readTokens pos glued (c :: cs) =
        ⟨kind, ⟨pos, pos + Text.byteLength (c :: taken)⟩⟩ ::
          readTokens (pos + Text.byteLength (c :: taken)) kind.isFragment rest := by
  obtain ⟨taken, htaken, -⟩ := readToken_replace glued cs hstart.isSeparator
  rw [hread] at htaken
  simp only at htaken
  subst htaken
  have hgap : (glued && ([] : List Char).isEmpty) = glued := Bool.and_true glued
  exact ⟨taken, rfl, readTokens_token pos glued .nil hstart (by rw [hgap]; exact hread)⟩

/-- A closed line leaves its last token as it is before a space. -/
theorem EndsWith.readToken_space
    {line : String} (hclosed : Closed line) {front : List Token} {last : Token}
    {before source : List Char} {behind : Bool} (hline : line.toList = before ++ c :: source)
    (htokens : tokens line = front ++ [last])
    (h : EndsWith 0 false front last before behind c source) :
    readToken behind c (source ++ [' ']) = (last.kind, [' ']) := by
  have hspace : tokens (line ++ " ") = front ++ [last] := hclosed.trans htokens
  rw [tokens, String.toList_append, hline, show " ".toList = [' '] from rfl,
    h.append _ startsInLine_space] at hspace
  obtain ⟨kind, span⟩ := last
  obtain rfl := h.span_eq
  have hstart : StartsToken (c :: (source ++ [])) := by
    rw [List.append_nil]
    exact h.startsToken
  have hread : readToken (behind && ([] : List Char).isEmpty) c (source ++ ([] ++ [' '])) =
      (kind, [] ++ [' ']) ∧ _ :=
    readToken_append_space .nil hstart (by simpa using List.append_cancel_left hspace)
  simpa using hread.1

/-! ## Behind a word -/

/-- A word that ends before a space goes on behind a continuation as it would without it. -/
theorem readWord_continuation
    (k : Continuation) (hnext : StartsInLine next) (h : (readWord (cs ++ [' '])).2 = [' ']) :
    readWord (cs ++ (k.chars ++ next)) = readWord (cs ++ next) := by
  fun_induction readWord cs with
  | case1 =>
      cases k with
      | lineFeed => rfl
      | returnLineFeed => rfl
  | case2 cs ih => exact ih h
  | case3 cs ih => exact ih h
  | case4 c cs hfeed hreturn _ _ _ ih =>
      have hescape : ∀ {more : List Char}, StartsInLine more →
          readWord ('\\' :: c :: (cs ++ more)) =
            ((readWord (cs ++ more)).1.cons c, (readWord (cs ++ more)).2) := by
        intro more hmore
        refine readWord_escape hfeed fun r hc => ?_
        cases cs with
        | nil =>
            rintro rfl
            exact (hmore '\n' rfl).1 rfl
        | cons d ds =>
            intro heq
            obtain ⟨rfl, -⟩ := List.cons.inj heq
            exact hreturn ds hc rfl
      simp only [List.cons_append] at h ⊢
      rw [hescape startsInLine_space] at h
      rw [hescape (k.startsInLine next), hescape hnext, ih h]
  | case5 c cs _ _ _ hboundary =>
      rw [List.cons_append, readWord_of_isWordBoundary (by simpa using hboundary)] at h
      simp at h
  | case6 c cs _ _ hescape hboundary _ _ _ ih =>
      by_cases hslash : c = '\\'
      · subst hslash
        cases cs with
        | nil => cases h
        | cons d ds => exact (hescape d ds rfl rfl).elim
      · have hboundary : isWordBoundary c = false := by simpa using hboundary
        simp only [List.cons_append, readWord_plain hslash hboundary] at h ⊢
        rw [ih h]

theorem Kind.isFragment_of_isPlain (h : kind.isPlain = true) : kind.isFragment = true := by
  cases kind with
  | fragment f => rfl
  | _ => cases h

/-- A plain token that is a fragment is its word. -/
theorem readPlain_of_isFragment (h : (readPlain cs).1.isFragment = true) :
    readPlain cs = ((readWord cs).1.toKind, (readWord cs).2) := by
  rcases readPlain_cases cs with hword | ⟨n, rest, hread⟩ | ⟨n, rest, hread⟩
  · exact hword
  · rw [hread, isFragment_readOutput] at h
    cases h
  · rw [hread, isFragment_readInput] at h
    cases h

theorem Word.isPlain_toKind (w : Word) : w.toKind.isPlain = true := by
  rw [Word.toKind]
  split
  · rfl
  · rfl

theorem readPlain_congr {ds : List Char} (h : readWord cs = readWord ds) :
    readPlain cs = readPlain ds := by
  rw [readPlain, readPlain, h]

theorem isPlain_readDollar_of_some
    {e : Expansion} (h : readExpansion cs = some (e, next)) :
    (readDollar cs).1.isPlain = false := by
  cases e with
  | parameter name => simp only [readDollar, h, Kind.isPlain]
  | substitution content => simp only [readDollar, h, Kind.isPlain]

/-- Whether a `$` opens something depends on the first character behind it. -/
theorem readExpansion_append_none
    (hne : text ≠ []) (h : readExpansion (text ++ cs) = none) (next : List Char) :
    readExpansion (text ++ next) = none := by
  rw [readExpansion_eq_none_iff] at h ⊢
  obtain ⟨c, rest, rfl⟩ := List.exists_cons_of_ne_nil hne
  exact h

/-- A word behind a `$` that opens nothing goes on behind a continuation. -/
theorem readDollar_continuation
    (k : Continuation) (hnext : StartsInLine next) (hne : text ≠ [])
    (hplain : (readDollar (text ++ [' '])).1.isPlain = true)
    (hrest : (readDollar (text ++ [' '])).2 = [' ']) :
    readDollar (text ++ (k.chars ++ next)) = readDollar (text ++ next) := by
  cases hexpansion : readExpansion (text ++ [' ']) with
  | some read =>
      rw [isPlain_readDollar_of_some hexpansion] at hplain
      cases hplain
  | none =>
      have hnone := readExpansion_append_none hne hexpansion
      rw [readDollar_of_none hexpansion] at hrest
      rw [readDollar_of_none (hnone _), readDollar_of_none (hnone _),
        readWord_continuation k hnext hrest]

/-- A fragment is opened by a `$`, or it is a plain word, or it is closed by a character of its
own. -/
theorem reader_of_isFragment (h : (readToken glued c cs).1.isFragment = true) :
    (c = '$' ∧ readToken glued c = readDollar) ∨
      (readToken glued c = fun ds => readPlain (c :: ds)) ∨
      ((readToken glued c cs).1.isPlain = false ∧ ∀ ds, Delimited (readToken glued c) ds) := by
  have hread := readBy_readToken glued c
  generalize readToken glued c = read at h hread ⊢
  cases hread with
  | comment _ => cases h
  | ampersand => rw [isFragment_readAmpersand] at h; cases h
  | pipe => rw [isFragment_readPipe] at h; cases h
  | semicolon => rw [isFragment_readSemicolon] at h; cases h
  | openParen => cases h
  | closeParen => cases h
  | output => rw [isFragment_readOutput] at h; cases h
  | input => rw [isFragment_readInput] at h; cases h
  | dollar => exact Or.inl ⟨rfl, rfl⟩
  | backticks =>
      exact Or.inr (Or.inr ⟨rfl, fun ds => (readBackticks_delimited ds).prepend []
        (f := fun content => .fragment (.substitution (String.ofList content) true))
        fun _ => rfl⟩)
  | singleQuoted =>
      exact Or.inr (Or.inr ⟨rfl, fun ds => (readSingleQuoted_delimited ds).prepend []
        (f := fun text => .fragment (.singleQuoted (String.ofList text))) fun _ => rfl⟩)
  | doubleQuoted =>
      exact Or.inr (Or.inr ⟨rfl, fun ds => (readDoubleQuoted_delimited ds).prepend []
        (f := fun pieces => .fragment (.doubleQuoted (QuotedPart.ofPieces pieces)))
        fun _ => rfl⟩)
  | plain _ _ => exact Or.inr (Or.inl rfl)

/-- A plain fragment that ends before a space goes on behind a continuation as it would without
it. -/
theorem readToken_continuation
    (k : Continuation) (hnext : StartsInLine next) (hplain : kind.isPlain = true)
    (h : readToken glued c (text ++ [' ']) = (kind, [' ']))
    (hdollar : (c :: text).getLast? ≠ some '$') :
    readToken glued c (text ++ (k.chars ++ next)) = readToken glued c (text ++ next) := by
  have hkind : (readToken glued c (text ++ [' '])).1 = kind := congrArg Prod.fst h
  have hrest : (readToken glued c (text ++ [' '])).2 = [' '] := congrArg Prod.snd h
  subst hkind
  have hfragment := Kind.isFragment_of_isPlain hplain
  rcases reader_of_isFragment hfragment with ⟨rfl, hread⟩ | hread | ⟨hnot, -⟩
  · have hne : text ≠ [] := by
      rintro rfl
      exact hdollar rfl
    rw [hread] at hplain hrest ⊢
    exact readDollar_continuation k hnext hne hplain hrest
  · rw [hread] at hfragment hrest ⊢
    simp only at hfragment hrest ⊢
    rw [readPlain_of_isFragment hfragment, ← List.cons_append] at hrest
    refine readPlain_congr ?_
    rw [← List.cons_append, ← List.cons_append]
    exact readWord_continuation k hnext hrest
  · rw [hnot] at hplain
    cases hplain

/-! ## Behind quotes and expansions -/

/-- What is closed before a space is closed before anything. -/
theorem Delimited.append
    {α : Type} {read : List Char → α × List Char} (h : Delimited read (text ++ [' ']))
    (hrest : (read (text ++ [' '])).2 = [' ']) (next : List Char) :
    read (text ++ next) = ((read (text ++ [' '])).1, next) := by
  obtain ⟨front, hfront, hread⟩ := h
  rw [hrest] at hfront hread
  obtain rfl : text = front := List.append_cancel_right hfront
  exact hread (List.cons_ne_nil _ _) next

/-- A name that ends before a space ends before every character that is not part of a name. -/
theorem takeWhile_isNameChar_append
    (hrest : (cs ++ [' ']).dropWhile isNameChar = [' '])
    (hnext : ∀ y ∈ next.head?, isNameChar y = false) :
    (cs ++ next).takeWhile isNameChar = (cs ++ [' ']).takeWhile isNameChar ∧
      (cs ++ next).dropWhile isNameChar = next := by
  have hcs : (cs ++ [' ']).takeWhile isNameChar = cs := by
    have hsplit := List.takeWhile_append_dropWhile (p := isNameChar) (l := cs ++ [' '])
    rw [hrest] at hsplit
    exact List.append_cancel_right hsplit
  have hname : ∀ c ∈ cs, isNameChar c = true := by
    intro c hc
    rw [← hcs] at hc
    exact List.mem_takeWhile_imp hc
  rw [hcs]
  exact takeWhile_append_of_head hname hnext

/-- An expansion that ends before a space ends before every character that is not part of a
name. -/
theorem readExpansion_append
    {e : Expansion} (h : readExpansion (text ++ [' ']) = some (e, [' ']))
    (hnext : ∀ y ∈ next.head?, isNameChar y = false) :
    readExpansion (text ++ next) = some (e, next) := by
  cases text with
  | nil => cases h
  | cons c cs =>
      rcases readExpansion_cases c with ⟨-, hread⟩ | ⟨-, hread⟩ | ⟨-, hread⟩ | ⟨-, hread⟩ | hread
      all_goals rw [List.cons_append, hread] at h
      · obtain ⟨rfl, hrest⟩ := Prod.mk.inj (Option.some.inj h)
        rw [List.cons_append, hread, (readBody_delimited parentheses 0 .bare _).append hrest next]
      · obtain ⟨rfl, hrest⟩ := Prod.mk.inj (Option.some.inj h)
        rw [List.cons_append, hread, (readBody_delimited braces 0 .bare _).append hrest next]
      · obtain ⟨rfl, hrest⟩ := Prod.mk.inj (Option.some.inj h)
        rw [List.append_left_eq_self.mp hrest, List.cons_append, hread, List.nil_append]
      · obtain ⟨rfl, hrest⟩ := Prod.mk.inj (Option.some.inj h)
        rw [← List.cons_append] at hrest
        obtain ⟨htake, hdrop⟩ := takeWhile_isNameChar_append hrest hnext
        rw [List.cons_append, hread, ← List.cons_append, ← List.cons_append, htake, hdrop]
      · cases h

theorem readDollar_append
    (hplain : (readDollar (text ++ [' '])).1.isPlain = false)
    (hrest : (readDollar (text ++ [' '])).2 = [' '])
    (hnext : ∀ y ∈ next.head?, isNameChar y = false) :
    readDollar (text ++ next) = ((readDollar (text ++ [' '])).1, next) := by
  cases hexpansion : readExpansion (text ++ [' ']) with
  | none =>
      rw [readDollar_of_none hexpansion, Word.isPlain_toKind] at hplain
      cases hplain
  | some read =>
      obtain ⟨e, rest⟩ := read
      obtain rfl : rest = [' '] := (readDollar_of_some hexpansion).2.2.2.symm.trans hrest
      have hread := readExpansion_append hexpansion hnext
      cases e with
      | parameter name => simp only [readDollar, hexpansion, hread]
      | substitution content => simp only [readDollar, hexpansion, hread]

/-- A fragment that is not plain and ends before a space ends before every character that is not
part of a name. -/
theorem readToken_append_of_not_plain
    (hfragment : kind.isFragment = true) (hplain : kind.isPlain = false)
    (h : readToken glued c (text ++ [' ']) = (kind, [' ']))
    (hnext : ∀ y ∈ next.head?, isNameChar y = false) :
    readToken glued c (text ++ next) = (kind, next) := by
  have hkind : (readToken glued c (text ++ [' '])).1 = kind := congrArg Prod.fst h
  have hrest : (readToken glued c (text ++ [' '])).2 = [' '] := congrArg Prod.snd h
  subst hkind
  rcases reader_of_isFragment hfragment with ⟨rfl, hread⟩ | hread | ⟨-, hdelimited⟩
  · rw [hread] at hplain hrest ⊢
    exact readDollar_append hplain hrest hnext
  · rw [hread] at hplain hfragment
    simp only at hplain hfragment
    rw [readPlain_of_isFragment hfragment, Word.isPlain_toKind] at hplain
    cases hplain
  · exact (hdelimited _).append hrest next

/-! ## Arguments -/

/-- A token may be longer than it was, if all that stands behind it is shifted. -/
theorem assemble_token_shift
    (kind : Kind) (start stop d : Nat) (ts : List Token) (pending : Option Pending) :
    assemble pending (⟨kind, ⟨start, stop + d⟩⟩ :: ts.map (Token.shift d)) =
      assemble pending (⟨kind, ⟨start, stop⟩⟩ :: ts) := by
  cases hkind : kind.isFragment with
  | true =>
      obtain ⟨f, rfl⟩ := Kind.exists_fragment hkind
      exact assemble_fragment_shift ⟨rfl, rfl, rfl⟩ start stop d ts pending
  | false =>
      have hshift := assemble_shift d none ts
      rw [Option.map_none] at hshift
      rw [assemble_other hkind, assemble_other hkind, hshift]

/-- The token that a continuation stands in only becomes longer by it. -/
theorem assemble_readTokens_continuation
    (k : Continuation) (pos : Nat) (hstart : StartsToken (c :: text))
    (hnext : StartsInLine next)
    (hread : readToken glued c (text ++ (k.chars ++ next)) = readToken glued c (text ++ next))
    (pending : Option Pending) :
    assemble pending (readTokens pos glued (c :: (text ++ (k.chars ++ next)))) =
      assemble pending (readTokens pos glued (c :: (text ++ next))) := by
  obtain ⟨kind, rest, hshort⟩ : ∃ kind rest, readToken glued c (text ++ next) = (kind, rest) :=
    ⟨_, _, rfl⟩
  have hlong : readToken glued c (text ++ (k.chars ++ next)) = (kind, rest) := hread.trans hshort
  obtain ⟨taken, htaken, hshorter⟩ :=
    readTokens_cons pos (hstart.append_inLine hnext) hshort
  obtain ⟨taken', htaken', hlonger⟩ :=
    readTokens_cons pos (hstart.append_inLine (k.startsInLine next)) hlong
  have hwidth : Text.byteLength (c :: taken') =
      Text.byteLength (c :: taken) + Text.byteLength k.chars := by
    have h := congrArg Text.byteLength htaken
    have h' := congrArg Text.byteLength htaken'
    simp only [Text.byteLength_append] at h h'
    simp only [Text.byteLength_cons]
    omega
  rw [hshorter, hlonger, hwidth, ← Nat.add_assoc, readTokens_add]
  exact assemble_token_shift kind _ _ _ _ pending

section
variable {front : String} {last : Token} {before source : List Char} {behind : Bool}
  {fronts : List Token}

theorem EndsWith.arguments_plain
    (h : EndsWith 0 false fronts last before behind c source)
    (hline : front.toList = before ++ c :: source) (k : Continuation) {next : String}
    (hnext : StartsInLine next.toList)
    (hread : readToken behind c (source ++ (k.chars ++ next.toList)) =
      readToken behind c (source ++ next.toList)) :
    arguments (front ++ k.text ++ next) = arguments (front ++ next) := by
  have hlong := h.append _ (k.startsInLine next.toList)
  have hshort := h.append _ hnext
  rw [← hline] at hlong hshort
  rw [arguments, arguments, tokens, tokens, String.toList_append, String.toList_append,
    String.toList_append, Continuation.text, String.toList_ofList, List.append_assoc, hlong, hshort]
  exact assemble_append_congr
    (assemble_readTokens_continuation k _ h.startsToken hnext hread) fronts none

theorem EndsWith.tokens_of_gap
    (h : EndsWith 0 false fronts last before behind c source)
    (hline : front.toList = before ++ c :: source) (htokens : tokens front = fronts ++ [last])
    (k : Continuation) (next : String)
    (hread : readToken behind c (source ++ (k.chars ++ next.toList)) =
      (last.kind, k.chars ++ next.toList)) :
    tokens (front ++ k.text ++ next) = tokens front ++
      (tokens next).map
        (Token.shift (Text.byteLength front.toList + Text.byteLength k.chars)) := by
  have hstart := h.startsToken.append_inLine (k.startsInLine next.toList)
  have hne : k.chars ≠ [] := by cases k <;> decide
  have hwidth : Text.byteLength before + Text.byteLength (c :: source) =
      Text.byteLength front.toList := by rw [hline, Text.byteLength_append]
  have htoken := readTokens_token (0 + Text.byteLength before) behind .nil hstart
    (by simpa using hread)
  rw [List.nil_append, readTokens_gap k.isGap hne] at htoken
  have hbehind : readTokens (0 + Text.byteLength before) behind
      (c :: (source ++ (k.chars ++ next.toList))) =
      last :: (tokens next).map
        (Token.shift (Text.byteLength front.toList + Text.byteLength k.chars)) := by
    rw [htoken, tokens, ← readTokens_add, ← hwidth]
    obtain ⟨kind, span⟩ := last
    obtain rfl := h.span_eq
    simp
  rw [tokens, String.toList_append, String.toList_append, Continuation.text,
    String.toList_ofList, hline, List.append_assoc, h.append _ (k.startsInLine next.toList),
    hbehind, htokens, hline, List.append_assoc, List.singleton_append]

end

/-- Tokens apart from a line make up arguments of their own. -/
theorem arguments_of_tokens_apart
    {line front next : String} {d : Nat} (hd : Text.byteLength front.toList < d)
    (h : tokens line = tokens front ++ (tokens next).map (Token.shift d)) :
    arguments line = arguments front ++ arguments next := by
  have hshift := assemble_shift d none (tokens next)
  rw [Option.map_none] at hshift
  have hapart : assemble none (tokens front ++ (tokens next).map (Token.shift d)) =
      assemble none (tokens front) ++ assemble none ((tokens next).map (Token.shift d)) := by
    refine assemble_append_of_apart (fun _ p hp => by cases hp) fun t ht u hu => ?_
    exact joins_shift_of_lt hd (List.mem_of_getLast? ht) (List.mem_of_head? hu)
  rw [arguments, h, hapart, hshift]
  rfl

/-- A continuation leaves no trace behind a plain word that ends a closed line: what comes behind
it goes on with the word, the line break in between being dropped.  Behind quoted text and behind
an expansion it parts what touches without it: the arguments are those of both lines alone. -/
theorem arguments_continuation
    {front : String} (hclosed : Closed front) (hdollar : front.toList.getLast? ≠ some '$')
    {last : Token} (hlast : last ∈ (tokens front).getLast?)
    (hfragment : last.kind.isFragment = true)
    (hstop : last.span.stop = Text.byteLength front.toList) (k : Continuation) (next : String) :
    (last.kind.isPlain = true → (∀ c ∈ next.toList.head?, isSeparator c = false) →
      arguments (front ++ k.text ++ next) = arguments (front ++ next)) ∧
    (last.kind.isPlain = false →
      arguments (front ++ k.text ++ next) = arguments front ++ arguments next) := by
  obtain ⟨fronts, before, behind, c, source, hline, htokens, hends⟩ :=
    (reads_readTokens 0 false front.toList).exists_endsWith hlast (by rw [hstop, Nat.zero_add])
  have hspace := hends.readToken_space hclosed hline htokens
  constructor
  · intro hplain hnext
    have hinLine := startsInLine_of_not_separator hnext
    have hslash : (c :: source).getLast? ≠ some '$' := by
      rw [hline, List.getLast?_append] at hdollar
      simpa using hdollar
    exact hends.arguments_plain hline k hinLine
      (readToken_continuation k hinLine hplain hspace hslash)
  · intro hplain
    have hname : ∀ y ∈ (k.chars ++ next.toList).head?, isNameChar y = false := by
      intro y hy
      rw [k.head?_append] at hy
      obtain rfl := Option.some.inj hy
      decide
    have hread := readToken_append_of_not_plain hfragment hplain hspace hname
    have hwidth : 0 < Text.byteLength k.chars := by cases k <;> decide
    exact arguments_of_tokens_apart (Nat.lt_add_of_pos_right hwidth)
      (hends.tokens_of_gap hline htokens k next hread)

/-- Behind the words the continuation is dropped, and even a `#` goes on with the argument; behind
the quotes the same `#` opens a comment. -/
theorem arguments_continuation_of_words :
    arguments ("show 'é'-x" ++ Continuation.returnLineFeed.text ++ "#y'z' b") =
        arguments ("show 'é'-x" ++ "#y'z' b") ∧
      arguments ("show x'é'" ++ Continuation.lineFeed.text ++ "#y'z' b") =
        arguments "show x'é'" ++ arguments "#y'z' b" := by
  have hword : Closed "show 'é'-x" := by decide +kernel
  have hwordlast : (⟨.fragment (.word "-x"), ⟨9, 11⟩⟩ : Token) ∈
      (tokens "show 'é'-x").getLast? := by decide +kernel
  have hquote : Closed "show x'é'" := by decide +kernel
  have hquotelast : (⟨.fragment (.singleQuoted "é"), ⟨6, 10⟩⟩ : Token) ∈
      (tokens "show x'é'").getLast? := by decide +kernel
  have hnext : ∀ c ∈ "#y'z' b".toList.head?, isSeparator c = false := by
    intro c hc
    obtain rfl := Option.some.inj hc
    decide
  constructor
  · exact (arguments_continuation hword (by decide +kernel) hwordlast rfl (by decide +kernel)
      .returnLineFeed "#y'z' b").1 rfl hnext
  · exact (arguments_continuation hquote (by decide +kernel) hquotelast rfl (by decide +kernel)
      .lineFeed "#y'z' b").2 rfl

/-- Quoted text and the word behind it are one argument, and two with a continuation between
them. -/
theorem continuation_parts_quoted_text :
    Closed "show 'a'" ∧ "show 'a'".toList.getLast? ≠ some '$' ∧
      (tokens "show 'a'").getLast? = some ⟨.fragment (.singleQuoted "a"), ⟨5, 8⟩⟩ ∧
      Text.byteLength "show 'a'".toList = 8 ∧
      arguments ("show 'a'" ++ Continuation.lineFeed.text ++ "b") = ["show", "a", "b"] ∧
      arguments ("show 'a'" ++ "b") = ["show", "ab"] := by
  decide +kernel

end Command
end MetricsScript
