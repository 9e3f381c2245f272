import MetricsScript.Proofs.Command.Slices
import MetricsScript.Proofs.Command.Closed
import MetricsScript.Proofs.Text.Decimal

/-!
# Descriptors of redirections

A redirection takes the word before it as its descriptor if the word is a number.  That is decided
on the text of the word, when its escapes and line continuations are gone, and without a look at
what stands before the word.  So a digit can have a backslash before it, or touch quoted text, and
still be taken.
-/

namespace MetricsScript
namespace Command

/-- The descriptor that is written in front of a redirection. -/
def Kind.descriptor? : Kind → Option UInt32
  | .redirect descriptor _ => descriptor
  | _ => none

/-- The first characters of the redirections with a descriptor. -/
def opensRedirection (c : Char) : Bool :=
  c == '<' || c == '>'

/-- A source that a word of digits is read from.  Any of the digits may be escaped, and lines may
be joined between them. -/
inductive SpellsDigits : List Char → List Char → Prop
  | nil : SpellsDigits [] []
  | digit {c : Char} {source digits : List Char} :
      Text.isDigit c = true → SpellsDigits source digits → SpellsDigits (c :: source) (c :: digits)
  | escaped {c : Char} {source digits : List Char} :
      Text.isDigit c = true → SpellsDigits source digits →
        SpellsDigits ('\\' :: c :: source) (c :: digits)
  | lineFeed {source digits : List Char} :
      SpellsDigits source digits → SpellsDigits ('\\' :: '\n' :: source) digits
  | returnLineFeed {source digits : List Char} :
      SpellsDigits source digits → SpellsDigits ('\\' :: '\r' :: '\n' :: source) digits

/-- A text without its line continuations. -/
def joinLines : List Char → List Char
  | [] => []
  | '\\' :: '\n' :: cs => joinLines cs
  | '\\' :: '\r' :: '\n' :: cs => joinLines cs
  | c :: cs => c :: joinLines cs

/-- A digit with a backslash directly before it. -/
def EscapesDigit (source : List Char) : Prop :=
  ∃ front c back, source = front ++ '\\' :: c :: back ∧ Text.isDigit c = true

variable {c x : Char} {cs source digits back : List Char} {n : UInt32}

/-! ## Digits -/

theorem isWordBoundary_of_isDigit (h : Text.isDigit c = true) : isWordBoundary c = false := by
  rw [Bool.eq_false_iff]
  intro hboundary
  simp only [isWordBoundary, isSeparator, Bool.or_eq_true, beq_iff_eq, or_assoc] at hboundary
  rcases hboundary with rfl | rfl | rfl | rfl | rfl | rfl | rfl | rfl | rfl | rfl | rfl | rfl |
    rfl | rfl | rfl
  all_goals exact absurd h (by decide)

theorem ne_of_isDigit (h : Text.isDigit c = true) (hx : Text.isDigit x = false) : c ≠ x := by
  rintro rfl
  rw [h] at hx
  cases hx

theorem descriptor?_eq_some_iff :
    descriptor? digits = some n ↔ Text.numeral? digits = some n.toNat := by
  unfold descriptor?
  cases hnumeral : Text.numeral? digits with
  | none => simp
  | some m =>
      by_cases hm : m < UInt32.size
      · simp [hm, ← UInt32.toNat_inj]
      · have hn : n.toNat < UInt32.size := n.toNat_lt
        simp only [dif_neg hm, reduceCtorEq, Option.some.injEq, false_iff]
        omega

/-! ## Spellings -/

theorem SpellsDigits.isDigit (h : SpellsDigits source digits) :
    ∀ c ∈ digits, Text.isDigit c = true := by
  induction h with
  | nil => simp
  | digit hc _ ih => exact List.forall_mem_cons.mpr ⟨hc, ih⟩
  | escaped hc _ ih => exact List.forall_mem_cons.mpr ⟨hc, ih⟩
  | lineFeed _ ih => exact ih
  | returnLineFeed _ ih => exact ih

theorem SpellsDigits.not_opensRedirection (h : SpellsDigits source digits) :
    ∀ c ∈ source, opensRedirection c = false := by
  have hdigit : ∀ {c : Char}, Text.isDigit c = true → opensRedirection c = false := by
    intro c hc
    have hin := ne_of_isDigit (x := '<') hc (by decide)
    have hout := ne_of_isDigit (x := '>') hc (by decide)
    simp [opensRedirection, hin, hout]
  induction h with
  | nil => simp
  | digit hc _ ih => exact List.forall_mem_cons.mpr ⟨hdigit hc, ih⟩
  | escaped hc _ ih =>
      exact List.forall_mem_cons.mpr ⟨by decide, List.forall_mem_cons.mpr ⟨hdigit hc, ih⟩⟩
  | lineFeed _ ih => simpa [opensRedirection] using ih
  | returnLineFeed _ ih => simpa [opensRedirection] using ih

/-- A spelling is read as a word up to the character that ends it. -/
theorem SpellsDigits.readWord (h : SpellsDigits source digits) (hx : isWordBoundary x = true) :
    Command.readWord (source ++ x :: back) = (⟨digits, false⟩, x :: back) := by
  induction h with
  | nil =>
      apply readWord_of_isWordBoundary
      simpa using hx
  | @digit c source digits hc _ ih =>
      have hslash := ne_of_isDigit (x := '\\') hc (by decide)
      have hstar := ne_of_isDigit (x := '*') hc (by decide)
      have hquestion := ne_of_isDigit (x := '?') hc (by decide)
      rw [List.cons_append, readWord_plain hslash (isWordBoundary_of_isDigit hc), ih]
      simp [Word.consPlain, isGlobChar, hstar, hquestion]
  | @escaped c source digits hc _ ih =>
      have hfeed := ne_of_isDigit (x := '\n') hc (by decide)
      have hreturn := ne_of_isDigit (x := '\r') hc (by decide)
      rw [List.cons_append, List.cons_append,
        readWord_escape hfeed (fun _ heq => absurd heq hreturn), ih]
      rfl
  | lineFeed _ ih => exact ih
  | returnLineFeed _ ih => exact ih

/-- A word of digits is read from a spelling of them. -/
theorem exists_spelling (h : ∀ c ∈ (readWord cs).1.text, Text.isDigit c = true) :
    ∃ source, cs = source ++ (readWord cs).2 ∧ SpellsDigits source (readWord cs).1.text := by
  fun_induction readWord cs with
  | case1 => exact ⟨[], rfl, .nil⟩
  | case2 cs ih =>
      obtain ⟨source, hcs, hsource⟩ := ih h
      exact ⟨'\\' :: '\n' :: source, congrArg ('\\' :: '\n' :: ·) hcs, .lineFeed hsource⟩
  | case3 cs ih =>
      obtain ⟨source, hcs, hsource⟩ := ih h
      exact ⟨'\\' :: '\r' :: '\n' :: source, congrArg ('\\' :: '\r' :: '\n' :: ·) hcs,
        .returnLineFeed hsource⟩
  | case4 c cs _ _ word rest hread ih =>
      obtain ⟨hc, htext⟩ := List.forall_mem_cons.mp h
      rw [hread] at ih
      obtain ⟨source, hcs, hsource⟩ := ih htext
      exact ⟨'\\' :: c :: source, congrArg ('\\' :: c :: ·) hcs, .escaped hc hsource⟩
  | case5 c cs => exact ⟨[], rfl, .nil⟩
  | case6 c cs _ _ _ _ word rest hread ih =>
      obtain ⟨hc, htext⟩ := List.forall_mem_cons.mp h
      rw [hread] at ih
      obtain ⟨source, hcs, hsource⟩ := ih htext
      exact ⟨c :: source, congrArg (c :: ·) hcs, .digit hc hsource⟩

theorem escapesDigit_cons_iff {d : Char} :
    EscapesDigit (d :: source) ↔
      (d = '\\' ∧ ∃ c ∈ source.head?, Text.isDigit c = true) ∨ EscapesDigit source := by
  constructor
  · rintro ⟨front, c, back, heq, hc⟩
    cases front with
    | nil =>
        obtain ⟨rfl, rfl⟩ := List.cons.inj heq
        exact Or.inl ⟨rfl, c, rfl, hc⟩
    | cons e front =>
        obtain ⟨-, rfl⟩ := List.cons.inj heq
        exact Or.inr ⟨front, c, back, rfl, hc⟩
  · rintro (⟨rfl, c, hhead, hc⟩ | ⟨front, c, back, rfl, hc⟩)
    · obtain ⟨back, rfl⟩ := List.head?_eq_some_iff.mp hhead
      exact ⟨[], c, back, rfl, hc⟩
    · exact ⟨d :: front, c, back, rfl, hc⟩

theorem joinLines_cons (h : c ≠ '\\') : joinLines (c :: cs) = c :: joinLines cs := by
  rw [joinLines]
  · rintro ds rfl
    exact absurd rfl h
  · rintro ds rfl
    exact absurd rfl h

theorem joinLines_slash (hfeed : c ≠ '\n') (hreturn : c ≠ '\r') :
    joinLines ('\\' :: c :: cs) = '\\' :: joinLines (c :: cs) := by
  rw [joinLines]
  · rintro ds - heq
    exact hfeed (List.cons.inj heq).1
  · rintro ds - heq
    exact hreturn (List.cons.inj heq).1

/-- Without line continuations a spelling is the digits alone, unless one of them is escaped. -/
theorem SpellsDigits.joinLines_eq_iff (h : SpellsDigits source digits) :
    joinLines source = digits ↔ ¬EscapesDigit source := by
  induction h with
  | nil => simp [joinLines, EscapesDigit]
  | @digit c source digits hc _ ih =>
      have hslash := ne_of_isDigit (x := '\\') hc (by decide)
      simp [joinLines_cons hslash, escapesDigit_cons_iff, hslash, ih]
  | @escaped c source digits hc _ ih =>
      have hslash := ne_of_isDigit (x := '\\') hc (by decide)
      have hfeed := ne_of_isDigit (x := '\n') hc (by decide)
      have hreturn := ne_of_isDigit (x := '\r') hc (by decide)
      have hescapes : EscapesDigit ('\\' :: c :: source) := ⟨[], c, source, rfl, hc⟩
      rw [joinLines_slash hfeed hreturn]
      simp [hescapes, Ne.symm hslash]
  | @lineFeed source digits _ ih =>
      have hfeed : Text.isDigit '\n' = false := by decide
      simp [joinLines, escapesDigit_cons_iff, hfeed, ih]
  | @returnLineFeed source digits _ ih =>
      have hreturn : Text.isDigit '\r' = false := by decide
      simp [joinLines, escapesDigit_cons_iff, hreturn, ih]

/-! ## Redirections with a descriptor -/

theorem descriptor?_readAmpersand (cs : List Char) : (readAmpersand cs).1.descriptor? = none := by
  fun_cases readAmpersand cs <;> rfl

theorem descriptor?_readPipe (cs : List Char) : (readPipe cs).1.descriptor? = none := by
  fun_cases readPipe cs <;> rfl

theorem descriptor?_readSemicolon (cs : List Char) : (readSemicolon cs).1.descriptor? = none := by
  fun_cases readSemicolon cs <;> rfl

theorem descriptor?_readOutput (descriptor : Option UInt32) (cs : List Char) :
    (readOutput descriptor cs).1.descriptor? = descriptor := by
  fun_cases readOutput descriptor cs <;> rfl

theorem descriptor?_readInput (descriptor : Option UInt32) (cs : List Char) :
    (readInput descriptor cs).1.descriptor? = descriptor := by
  fun_cases readInput descriptor cs <;> rfl

theorem Word.descriptor?_toKind (w : Word) : w.toKind.descriptor? = none := by
  rw [toKind]
  split
  · rfl
  · rfl

theorem descriptor?_readDollar (cs : List Char) : (readDollar cs).1.descriptor? = none := by
  unfold readDollar
  split
  · rfl
  · rfl
  · exact Word.descriptor?_toKind _

/-- A redirection with a descriptor is read as a plain token. -/
theorem readToken_of_descriptor
    {glued : Bool} (h : (readToken glued c cs).1.descriptor? = some n) :
    readToken glued c cs = readPlain (c :: cs) := by
  have hread := readBy_readToken glued c
  generalize readToken glued c = read at h hread ⊢
  have hnone : (read cs).1.descriptor? ≠ none := by
    rw [h]
    exact Option.some_ne_none n
  cases hread with
  | comment _ => exact absurd rfl hnone
  | ampersand => exact absurd (descriptor?_readAmpersand cs) hnone
  | pipe => exact absurd (descriptor?_readPipe cs) hnone
  | semicolon => exact absurd (descriptor?_readSemicolon cs) hnone
  | openParen => exact absurd rfl hnone
  | closeParen => exact absurd rfl hnone
  | output => exact absurd (descriptor?_readOutput none cs) hnone
  | input => exact absurd (descriptor?_readInput none cs) hnone
  | dollar => exact absurd (descriptor?_readDollar cs) hnone
  | backticks => exact absurd rfl hnone
  | singleQuoted => exact absurd rfl hnone
  | doubleQuoted => exact absurd rfl hnone
  | plain _ _ => rfl

/-- A word that is a number is the descriptor of the redirection behind it. -/
theorem readPlain_redirection
    {w : Word} {r : List Char} (hword : readWord cs = (w, x :: r))
    (hx : opensRedirection x = true) (hn : descriptor? w.text = some n) :
    (readPlain cs).1.descriptor? = some n ∧ ∃ more, r = more ++ (readPlain cs).2 := by
  simp only [opensRedirection, Bool.or_eq_true, beq_iff_eq] at hx
  rcases hx with rfl | rfl
  · obtain ⟨more, hmore, -⟩ := readInput_stable (some n) r
    rw [readPlain_input hword hn]
    exact ⟨descriptor?_readInput _ _, more, hmore⟩
  · obtain ⟨more, hmore, -⟩ := readOutput_stable (some n) r
    rw [readPlain_output hword hn]
    exact ⟨descriptor?_readOutput _ _, more, hmore⟩

theorem exists_word_of_descriptor (h : (readPlain cs).1.descriptor? = some n) :
    ∃ w x r, readWord cs = (w, x :: r) ∧ opensRedirection x = true ∧
      descriptor? w.text = some n := by
  obtain ⟨w, rest, hword⟩ : ∃ w rest, readWord cs = (w, rest) := ⟨_, _, rfl⟩
  by_cases hrest : descriptor? w.text = none ∨
      (∀ r, rest ≠ '>' :: r) ∧ ∀ r, rest ≠ '<' :: r
  · rw [readPlain_word hword hrest, Word.descriptor?_toKind] at h
    cases h
  obtain ⟨hsome, hredirect⟩ := not_or.mp hrest
  obtain ⟨m, hm⟩ := Option.ne_none_iff_exists'.mp hsome
  obtain ⟨x, r, rfl, hx⟩ : ∃ x r, rest = x :: r ∧ opensRedirection x = true := by
    by_contra hnone
    apply hredirect
    constructor
    · rintro r rfl
      exact hnone ⟨'>', r, rfl, rfl⟩
    · rintro r rfl
      exact hnone ⟨'<', r, rfl, rfl⟩
  have hread := (readPlain_redirection hword hx hm).1
  rw [h] at hread
  exact ⟨w, x, r, hword, hx, hm.trans hread.symm⟩

/-- The text of a redirection with a descriptor is a spelling of the descriptor and goes on with
the redirection. -/
theorem exists_spelling_of_descriptor
    {glued : Bool} {text : List Char} {kind : Kind}
    (h : readToken glued c (text ++ back) = (kind, back)) (hn : kind.descriptor? = some n) :
    ∃ source x more digits, c :: text = source ++ x :: more ∧ opensRedirection x = true ∧
      SpellsDigits source digits ∧ Text.numeral? digits = some n.toNat := by
  have hplain : readToken glued c (text ++ back) = readPlain (c :: (text ++ back)) := by
    apply readToken_of_descriptor
    rw [h]
    exact hn
  have hsome : (readPlain (c :: (text ++ back))).1.descriptor? = some n := by
    rw [← hplain, h]
    exact hn
  obtain ⟨w, x, r, hword, hx, hnumber⟩ := exists_word_of_descriptor hsome
  obtain ⟨-, more, hmore⟩ := readPlain_redirection hword hx hnumber
  rw [← hplain, h] at hmore
  have hnumeral := descriptor?_eq_some_iff.mp hnumber
  have hdigits : ∀ d ∈ (readWord (c :: (text ++ back))).1.text, Text.isDigit d = true := by
    rw [hword]
    exact (Text.numeral?_eq_some_iff.mp hnumeral).2.1
  obtain ⟨source, hsource, hspells⟩ := exists_spelling hdigits
  rw [hword] at hsource hspells
  refine ⟨source, x, more, w.text, ?_, hx, hspells, hnumeral⟩
  have hwhole : (c :: text) ++ back = (source ++ x :: more) ++ back := by
    rw [List.cons_append, hsource, hmore]
    simp
  exact List.append_cancel_right hwhole

/-- Where a spelled number stands before a redirection, it is taken as the descriptor. -/
theorem SpellsDigits.readToken
    (h : SpellsDigits source digits) (hn : Text.numeral? digits = some n.toNat)
    (hx : opensRedirection x = true) (hcs : c :: cs = source ++ x :: back) (glued : Bool) :
    (Command.readToken glued c cs).1.descriptor? = some n := by
  have hne := (Text.numeral?_eq_some_iff.mp hn).1
  have hhead : Text.isDigit c = true ∨ c = '\\' := by
    cases h with
    | nil => exact absurd rfl hne
    | digit hc _ =>
        obtain ⟨rfl, -⟩ := List.cons.inj hcs
        exact Or.inl hc
    | escaped _ _ => exact Or.inr (List.cons.inj hcs).1
    | lineFeed _ => exact Or.inr (List.cons.inj hcs).1
    | returnLineFeed _ => exact Or.inr (List.cons.inj hcs).1
  have hform : opensForm c = false := by
    rcases hhead with hdigit | rfl
    · exact (isWordBoundary_eq_false_iff.mp (isWordBoundary_of_isDigit hdigit)).2
    · decide
  have hhash : c ≠ '#' := by
    rintro rfl
    exact absurd hhead (by decide)
  have hboundary : isWordBoundary x = true := by
    simp only [opensRedirection, Bool.or_eq_true, beq_iff_eq] at hx
    rcases hx with rfl | rfl
    · rfl
    · rfl
  have hword : Command.readWord (source ++ x :: back) = (⟨digits, false⟩, x :: back) :=
    h.readWord hboundary
  rw [← hcs] at hword
  rw [readToken_plain hform (fun hc => absurd hc hhash)]
  exact (readPlain_redirection hword hx (descriptor?_eq_some_iff.mpr hn)).1

/-- The text before the first redirection. -/
def beforeRedirection (text : List Char) : List Char :=
  text.takeWhile fun c => !opensRedirection c

theorem SpellsDigits.beforeRedirection_eq
    (h : SpellsDigits source digits) (hx : opensRedirection x = true) (back : List Char) :
    beforeRedirection (source ++ x :: back) = source := by
  have hsource : ∀ c ∈ source, (!opensRedirection c) = true := by
    intro c hc
    rw [h.not_opensRedirection c hc]
    rfl
  simp [beforeRedirection, List.takeWhile_append_of_pos hsource, hx]

/-- Before the operator of a redirection with a descriptor stands a number in digits, which is the
descriptor; without line continuations these digits stand alone, unless one of them is escaped.
On the other hand, wherever a token begins with such a number and a redirection behind it, the
number is taken as the descriptor: an escaped digit with the others, and whether or not the token
touches a fragment before it. -/
theorem descriptor_spelled (line : String) :
    (∀ t ∈ tokens line, ∀ n, t.kind.descriptor? = some n →
      let source := beforeRedirection (t.span.slice line).toList
      ∃ digits, SpellsDigits source digits ∧ Text.numeral? digits = some n.toNat ∧
        (joinLines source = digits ↔ ¬EscapesDigit source)) ∧
    ∀ t ∈ tokens line, ∀ (front source : List Char) (x : Char) (back digits : List Char)
      (n : UInt32), line.toList = front ++ (source ++ x :: back) →
        t.span.start = Text.byteLength front → SpellsDigits source digits →
        Text.numeral? digits = some n.toNat → opensRedirection x = true →
          t.kind.descriptor? = some n := by
  constructor
  · intro t ht n hn source
    obtain ⟨front, glued, c, text, back, hline, hspan, -, hread⟩ :=
      (reads_readTokens 0 false line.toList).exists_read ht
    obtain ⟨source', x, more, digits, htext, hx, hspells, hnumeral⟩ :=
      exists_spelling_of_descriptor hread hn
    have hslice : t.span.slice line = String.ofList (c :: text) := by
      rw [hspan, Nat.zero_add]
      exact Span.slice_eq hline
    have hsource : source = source' := by
      simp only [source]
      rw [hslice, String.toList_ofList, htext]
      exact hspells.beforeRedirection_eq hx more
    rw [hsource]
    exact ⟨digits, hspells, hnumeral, hspells.joinLines_eq_iff⟩
  · intro t ht front source x back digits n hline hstart hspells hnumeral hx
    obtain ⟨front', glued, c, text, back', hline', hspan, -, hread⟩ :=
      (reads_readTokens 0 false line.toList).exists_read ht
    rw [hspan, Nat.zero_add] at hstart
    rw [hline', List.append_assoc] at hline
    obtain ⟨-, hplace⟩ := append_inj_of_byteLength_eq hline hstart
    rw [List.cons_append] at hplace
    have hdescriptor := hspells.readToken hnumeral hx hplace glued
    rw [hread] at hdescriptor
    exact hdescriptor

/-- The second digit of a descriptor is escaped on a line of its own, and the token touches quoted
text. -/
theorem descriptor_spelled_over_lines :
    let line := "'a'1\\\n\\2<<x"
    let t : Token := ⟨.redirect (some 12) .hereDocument, ⟨3, 10⟩⟩
    t ∈ tokens line ∧ SpellsDigits "1\\\n\\2".toList "12".toList ∧
      beforeRedirection (t.span.slice line).toList = "1\\\n\\2".toList ∧
      (∃ digits, SpellsDigits (beforeRedirection (t.span.slice line).toList) digits ∧
        Text.numeral? digits = some 12) ∧
      ∀ u ∈ tokens line, u.span.start = 3 → u.kind.descriptor? = some 12 := by
  intro line t
  have ht : t ∈ tokens line := by decide +kernel
  have hspells : SpellsDigits "1\\\n\\2".toList "12".toList :=
    .digit (by decide) (.lineFeed (.escaped (by decide) .nil))
  have hnumeral : Text.numeral? "12".toList = some (12 : UInt32).toNat := by decide
  obtain ⟨htaken, hplaces⟩ := descriptor_spelled line
  refine ⟨ht, hspells, by decide +kernel, ?_, ?_⟩
  · obtain ⟨digits, hdigits, hvalue, -⟩ := htaken t ht 12 rfl
    exact ⟨digits, hdigits, hvalue⟩
  · intro u hu hstart
    exact hplaces u hu "'a'".toList "1\\\n\\2".toList '<' "<x".toList "12".toList 12
      (by decide +kernel) hstart hspells hnumeral rfl

/-- An escaped digit is lost to a redirection, and so is one that touches quoted text: the first is
no bare digit, and the second belongs to a word that has begun before it. -/
theorem literal_digit_taken_as_descriptor :
    (∃ t ∈ tokens "show \\2>x", t.kind.descriptor? = some 2 ∧
      joinLines (beforeRedirection (t.span.slice "show \\2>x").toList) = ['\\', '2']) ∧
    arguments "show \\2>x" = ["show", "x"] ∧
    (∃ t ∈ tokens "show 'a'2>x", t.kind.descriptor? = some 2 ∧
      ∃ u ∈ tokens "show 'a'2>x", u.kind.isFragment = true ∧ u.span.Touches t.span) ∧
    arguments "show 'a'2>x" = ["show", "a", "x"] := by
  decide +kernel

end Command
end MetricsScript
