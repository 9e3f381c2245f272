import Mathlib.Data.List.TakeWhile
import MetricsScript.Proofs.Command.BodyEnd
import MetricsScript.Proofs.Command.Descriptors
import MetricsScript.Proofs.Command.TrailingBlanks

/-!
# Tokens that are written and read back

The written form of a token need not be read as that token: it has no escapes, and a word can look
like anything.  `Kind.Canonical` lists the tokens that say in their written form all that they are.
Each of them, alone on a line, is read as itself.
-/

namespace MetricsScript
namespace Command

/-- The tokens whose written form is read back.  Text between delimiters does not end early, and a
body in parentheses is complete. -/
inductive Kind.Canonical : Kind → Prop
  | control (operator : Control) : Canonical (.control operator)
  | redirect (descriptor : Option UInt32) (form : Redirection) :
      Canonical (.redirect descriptor form)
  | redirectBoth (append : Bool) : Canonical (.redirectBoth append)
  | singleQuoted {text : String} :
      '\'' ∉ text.toList → Canonical (.fragment (.singleQuoted text))
  | comment {text : String} :
      '\n' ∉ text.toList → '\r' ∉ text.toList → Canonical (.comment text)
  | special {c : Char} :
      isSpecialParameter c = true → Canonical (.fragment (.parameter (String.singleton c)))
  | name {c : Char} {cs : List Char} :
      isNameStart c = true → (∀ d ∈ cs, isNameChar d = true) →
        Canonical (.fragment (.parameter (String.ofList (c :: cs))))
  | backticks {content : String} :
      '\x60' ∉ content.toList → '\\' ∉ content.toList →
        Canonical (.fragment (.substitution content true))
  | command {content : String} :
      Balanced parentheses content.toList → Canonical (.fragment (.substitution content false))
  | process {content : String} :
      Balanced parentheses content.toList → Canonical (.processSubstitution content)

/-- At the front of a line the text is read as one token of the kind, and nothing is left. -/
structure Kind.ReadFrom (kind : Kind) (c : Char) (cs : List Char) : Prop where
  isSeparator : isSeparator c = false
  ne_slash : c ≠ '\\'
  readToken : readToken false c cs = (kind, [])

variable {c : Char} {cs : List Char} {kind : Kind} {content : String}

/-- A text that is read as one token has no other tokens. -/
theorem Kind.ReadFrom.readTokens (h : kind.ReadFrom c cs) :
    Command.readTokens 0 false (c :: cs) = [⟨kind, ⟨0, Text.byteLength (c :: cs)⟩⟩] := by
  have hstart : StartsToken (c :: (cs ++ [])) :=
    startsToken_of_not_separator h.isSeparator h.ne_slash
  have hread : Command.readToken (false && ([] : List Char).isEmpty) c (cs ++ []) = (kind, []) := by
    rw [List.append_nil]
    exact h.readToken
  have htokens := readTokens_token 0 false .nil hstart hread
  rw [readTokens_of_isGap .nil] at htokens
  simpa using htokens

/-! ## Operators and redirections -/

theorem Control.exists_readFrom (operator : Control) :
    ∃ c cs, operator.render.toList = c :: cs ∧ (Kind.control operator).ReadFrom c cs := by
  cases operator with
  | andIf => exact ⟨'&', ['&'], rfl, by decide, by decide, rfl⟩
  | orIf => exact ⟨'|', ['|'], rfl, by decide, by decide, rfl⟩
  | pipe => exact ⟨'|', [], rfl, by decide, by decide, rfl⟩
  | pipeBoth => exact ⟨'|', ['&'], rfl, by decide, by decide, rfl⟩
  | semicolon => exact ⟨';', [], rfl, by decide, by decide, rfl⟩
  | doubleSemicolon => exact ⟨';', [';'], rfl, by decide, by decide, rfl⟩
  | background => exact ⟨'&', [], rfl, by decide, by decide, rfl⟩
  | openParen => exact ⟨'(', [], rfl, by decide, by decide, rfl⟩
  | closeParen => exact ⟨')', [], rfl, by decide, by decide, rfl⟩

/-- A written redirection is read as that redirection, whatever its descriptor is. -/
theorem Redirection.exists_read (form : Redirection) :
    ∃ x more, form.render.toList = x :: more ∧
      (x = '>' ∧ (∀ descriptor, readOutput descriptor more = (.redirect descriptor form, [])) ∨
        x = '<' ∧ ∀ descriptor, readInput descriptor more = (.redirect descriptor form, [])) := by
  cases form with
  | output => exact ⟨'>', [], rfl, Or.inl ⟨rfl, fun _ => rfl⟩⟩
  | append => exact ⟨'>', ['>'], rfl, Or.inl ⟨rfl, fun _ => rfl⟩⟩
  | duplicateOutput => exact ⟨'>', ['&'], rfl, Or.inl ⟨rfl, fun _ => rfl⟩⟩
  | input => exact ⟨'<', [], rfl, Or.inr ⟨rfl, fun _ => rfl⟩⟩
  | hereDocument => exact ⟨'<', ['<'], rfl, Or.inr ⟨rfl, fun _ => rfl⟩⟩
  | hereString => exact ⟨'<', ['<', '<'], rfl, Or.inr ⟨rfl, fun _ => rfl⟩⟩
  | duplicateInput => exact ⟨'<', ['&'], rfl, Or.inr ⟨rfl, fun _ => rfl⟩⟩

theorem spellsDigits_self {digits : List Char} (h : ∀ c ∈ digits, Text.isDigit c = true) :
    SpellsDigits digits digits := by
  induction digits with
  | nil => exact .nil
  | cons c digits ih =>
      obtain ⟨hc, hdigits⟩ := List.forall_mem_cons.mp h
      exact .digit hc (ih hdigits)

theorem Redirection.exists_readFrom (descriptor : Option UInt32) (form : Redirection) :
    ∃ c cs, (Kind.redirect descriptor form).render.toList = c :: cs ∧
      (Kind.redirect descriptor form).ReadFrom c cs := by
  obtain ⟨x, more, hform, hread⟩ := form.exists_read
  cases descriptor with
  | none =>
      refine ⟨x, more, hform, ?_⟩
      rcases hread with ⟨rfl, hread⟩ | ⟨rfl, hread⟩
      · exact ⟨by decide, by decide, hread none⟩
      · exact ⟨by decide, by decide, hread none⟩
  | some n =>
      obtain ⟨c, digits, hdigits⟩ :=
        List.exists_cons_of_ne_nil (Nat.toDigits_ne_nil (b := 10) (n := n.toNat))
      have htext : (Kind.redirect (some n) form).render.toList = c :: (digits ++ x :: more) := by
        have hnumber : (toString n.toNat).toList = Nat.toDigits 10 n.toNat := Nat.toList_repr
        rw [Kind.render, String.toList_append, hform, hnumber, hdigits, List.cons_append]
      have hall : ∀ d ∈ c :: digits, Text.isDigit d = true := by
        intro d hd
        rw [← hdigits] at hd
        exact Text.isDigit_of_mem_toDigits hd
      have hc := hall c List.mem_cons_self
      have hnumber : descriptor? (c :: digits) = some n := by
        rw [descriptor?_eq_some_iff, ← hdigits]
        exact Text.numeral?_toDigits n.toNat
      have hboundary : isWordBoundary x = true := by
        rcases hread with ⟨rfl, -⟩ | ⟨rfl, -⟩
        · rfl
        · rfl
      have hword : readWord (c :: (digits ++ x :: more)) = (⟨c :: digits, false⟩, x :: more) :=
        (spellsDigits_self hall).readWord hboundary
      have hhash : c ≠ '#' := ne_of_isDigit hc (by decide)
      have hslash : c ≠ '\\' := ne_of_isDigit hc (by decide)
      obtain ⟨hseparator, hform⟩ :=
        isWordBoundary_eq_false_iff.mp (isWordBoundary_of_isDigit hc)
      refine ⟨c, digits ++ x :: more, htext, hseparator, hslash, ?_⟩
      rw [readToken_plain hform (fun heq => absurd heq hhash)]
      rcases hread with ⟨rfl, hread⟩ | ⟨rfl, hread⟩
      · rw [readPlain_output hword hnumber]
        exact hread (some n)
      · rw [readPlain_input hword hnumber]
        exact hread (some n)

/-! ## Quotes and comments -/

theorem readFrom_singleQuoted {text : String} (h : '\'' ∉ text.toList) :
    (Kind.fragment (.singleQuoted text)).ReadFrom '\'' (text.toList ++ ['\'']) where
  isSeparator := by decide
  ne_slash := by decide
  readToken := by
    have hread := readSingleQuoted_append h []
    simp [readToken, hread]

theorem readFrom_comment
    {text : String} (hfeed : '\n' ∉ text.toList) (hreturn : '\r' ∉ text.toList) :
    (Kind.comment text).ReadFrom '#' text.toList where
  isSeparator := by decide
  ne_slash := by decide
  readToken := by
    have hall : ∀ c ∈ text.toList, isCommentChar c = true := by
      intro c hc
      have hfeed : c ≠ '\n' := ne_of_mem_of_not_mem hc hfeed
      have hreturn : c ≠ '\r' := ne_of_mem_of_not_mem hc hreturn
      simp [isCommentChar, hfeed, hreturn]
    have htake := List.takeWhile_eq_self_iff.mpr hall
    have hdrop := List.dropWhile_eq_nil_iff.mpr hall
    simp [readToken, readComment, htake, hdrop]

/-! ## Expansions -/

theorem isSpecialParameter_of_isNameStart (h : isNameStart c = true) :
    isSpecialParameter c = false := by
  simp only [isNameStart, Bool.or_eq_true, Bool.and_eq_true, decide_eq_true_eq, beq_iff_eq,
    Char.le_def, UInt32.le_iff_toNat_le] at h
  have hdigit : Text.isDigit c = false := by
    rw [Bool.eq_false_iff]
    intro hdigit
    simp only [Text.isDigit, Bool.and_eq_true, decide_eq_true_eq, Char.le_def,
      UInt32.le_iff_toNat_le] at hdigit
    change 48 ≤ c.val.toNat ∧ c.val.toNat ≤ 57 at hdigit
    rcases h with (hsmall | hlarge) | rfl
    · change 97 ≤ c.val.toNat ∧ c.val.toNat ≤ 122 at hsmall
      omega
    · change 65 ≤ c.val.toNat ∧ c.val.toNat ≤ 90 at hlarge
      omega
    · exact absurd hdigit (by decide)
  rw [Bool.eq_false_iff]
  intro hspecial
  simp only [isSpecialParameter, hdigit, Bool.or_eq_true, beq_iff_eq, or_assoc, or_false,
    Bool.false_eq_true] at hspecial
  rcases hspecial with rfl | rfl | rfl | rfl | rfl | rfl | rfl
  all_goals exact absurd h (by decide)

theorem readExpansion_name
    {c : Char} (hstart : isNameStart c = true) (hspecial : isSpecialParameter c = false)
    (cs : List Char) :
    readExpansion (c :: cs) =
      some (.parameter ((c :: cs).takeWhile isNameChar), (c :: cs).dropWhile isNameChar) := by
  have hparen : c ≠ '(' := by
    rintro rfl
    exact absurd hstart (by decide)
  have hbrace : c ≠ '\x7b' := by
    rintro rfl
    exact absurd hstart (by decide)
  simp only [readExpansion, if_neg hparen, if_neg hbrace, hspecial, hstart, if_true,
    Bool.false_eq_true, if_false]

theorem readFrom_special (h : isSpecialParameter c = true) :
    (Kind.fragment (.parameter (String.singleton c))).ReadFrom '$' [c] where
  isSeparator := by decide
  ne_slash := by decide
  readToken := by
    have hparen : c ≠ '(' := by
      rintro rfl
      exact absurd h (by decide)
    have hbrace : c ≠ '\x7b' := by
      rintro rfl
      exact absurd h (by decide)
    have hread : readExpansion [c] = some (.parameter [c], []) := by
      rw [readExpansion, if_neg hparen, if_neg hbrace, if_pos h]
    simp [readToken, readDollar, hread]

theorem readFrom_name (hstart : isNameStart c = true) (hname : ∀ d ∈ cs, isNameChar d = true) :
    (Kind.fragment (.parameter (String.ofList (c :: cs)))).ReadFrom '$' (c :: cs) where
  isSeparator := by decide
  ne_slash := by decide
  readToken := by
    have hall : ∀ d ∈ c :: cs, isNameChar d = true :=
      List.forall_mem_cons.mpr ⟨by simp [isNameChar, hstart], hname⟩
    have hread := readExpansion_name hstart (isSpecialParameter_of_isNameStart hstart) cs
    rw [List.takeWhile_eq_self_iff.mpr hall, List.dropWhile_eq_nil_iff.mpr hall] at hread
    simp [readToken, readDollar, hread]

/-- Without backslashes a command in backticks is its own text. -/
theorem readBackticks_append
    {text : List Char} (hbacktick : '\x60' ∉ text) (hslash : '\\' ∉ text) (rest : List Char) :
    readBackticks (text ++ '\x60' :: rest) = (text, rest) := by
  induction text with
  | nil => simp [readBackticks]
  | cons c text ih =>
      simp only [List.mem_cons, not_or] at hbacktick hslash
      have hread := ih hbacktick.2 hslash.2
      simp [readBackticks, Ne.symm hslash.1, Ne.symm hbacktick.1, hread]

theorem readFrom_backticks
    (hbacktick : '\x60' ∉ content.toList) (hslash : '\\' ∉ content.toList) :
    (Kind.fragment (.substitution content true)).ReadFrom '\x60'
      (content.toList ++ ['\x60']) where
  isSeparator := by decide
  ne_slash := by decide
  readToken := by
    have hread := readBackticks_append hbacktick hslash []
    simp [readToken, hread]

/-- A construct around a complete body is read as that construct. -/
theorem Bracketed.exists_readFrom
    (k : Bracketed) {body : List Char} (h : Balanced k.brackets body) :
    ∃ c cs, k.opening ++ body ++ [k.brackets.closing] = c :: cs ∧ (k.kind body).ReadFrom c cs := by
  have hbody := h.readBody_closing k.brackets_proper []
  obtain ⟨c, d, hopening, hseparator, hslash, hread⟩ := k.readToken_opening hbody
  refine ⟨c, d :: (body ++ [k.brackets.closing]), ?_, hseparator, hslash, hread false⟩
  simp [hopening]

/-- The written form of each token in the list is read as that token. -/
theorem Kind.Canonical.exists_readFrom (h : kind.Canonical) :
    ∃ c cs, kind.render.toList = c :: cs ∧ kind.ReadFrom c cs := by
  cases h with
  | control operator => exact operator.exists_readFrom
  | redirect descriptor form => exact form.exists_readFrom descriptor
  | redirectBoth append =>
      cases append with
      | true => exact ⟨'&', ['>', '>'], rfl, by decide, by decide, rfl⟩
      | false => exact ⟨'&', ['>'], rfl, by decide, by decide, rfl⟩
  | singleQuoted h => exact ⟨_, _, by simp [render, Fragment.render], readFrom_singleQuoted h⟩
  | comment hfeed hreturn => exact ⟨_, _, by simp [render], readFrom_comment hfeed hreturn⟩
  | special h => exact ⟨_, _, by simp [render, Fragment.render], readFrom_special h⟩
  | name hstart hname =>
      exact ⟨_, _, by simp [render, Fragment.render], readFrom_name hstart hname⟩
  | backticks hbacktick hslash =>
      exact ⟨_, _, by simp [render, Fragment.render], readFrom_backticks hbacktick hslash⟩
  | @command content h =>
      obtain ⟨c, cs, htext, hread⟩ := Bracketed.exists_readFrom .command h
      rw [Bracketed.kind, String.ofList_toList] at hread
      refine ⟨c, cs, ?_, hread⟩
      rw [← htext]
      simp [render, Fragment.render, Bracketed.opening, Bracketed.brackets, parentheses]
  | @process content h =>
      obtain ⟨c, cs, htext, hread⟩ := Bracketed.exists_readFrom .process h
      rw [Bracketed.kind, String.ofList_toList] at hread
      refine ⟨c, cs, ?_, hread⟩
      rw [← htext]
      simp [render, Bracketed.opening, Bracketed.brackets, parentheses]

/-- A token that is written and read again is the one token of its line. -/
theorem tokens_render (h : kind.Canonical) :
    tokens kind.render = [⟨kind, ⟨0, Text.byteLength kind.render.toList⟩⟩] := by
  obtain ⟨c, cs, htext, hread⟩ := h.exists_readFrom
  rw [tokens, htext]
  exact hread.readTokens

/-- The largest descriptor is read back, and so is a body that hides parentheses. -/
theorem tokens_of_rendered_redirections :
    (Kind.redirect (some 4294967295) .hereString).Canonical ∧
      tokens "4294967295<<<" = [⟨.redirect (some 4294967295) .hereString, ⟨0, 13⟩⟩] ∧
      (Kind.processSubstitution "é ')' \"\\\")\" \\) (b)").Canonical ∧
      tokens "<(é ')' \"\\\")\" \\) (b))" =
        [⟨.processSubstitution "é ')' \"\\\")\" \\) (b)", ⟨0, 22⟩⟩] := by
  have hdescriptor : (Kind.redirect (some 4294967295) .hereString).Canonical :=
    .redirect (some 4294967295) .hereString
  have hprocess : (Kind.processSubstitution "é ')' \"\\\")\" \\) (b)").Canonical :=
    .process ((balanced_iff parentheses_proper).mpr (by decide +kernel))
  refine ⟨hdescriptor, ?_, hprocess, ?_⟩
  · exact tokens_render hdescriptor
  · exact tokens_render hprocess

end Command
end MetricsScript
