import MetricsScript.Proofs.Command.Reading

/-!
# Where a body ends

A body in brackets ends at the bracket that has a complete body before it.  The grammar of
complete bodies leaves one such bracket at most.  The reader knows nothing of the grammar: it
counts brackets and remembers quotes and backslashes.  But it stops at that bracket, and where
there is none the body is all of the text.
-/

namespace MetricsScript
namespace Command

/-- A text is cut into a complete body, the bracket that closes it, and a rest. -/
structure Closes (b : Brackets) (text body rest : List Char) : Prop where
  balanced : Balanced b body
  text_eq : text = body ++ b.closing :: rest

/-- The constructs with a body in brackets. -/
inductive Bracketed where
  | command
  | parameter
  | process
deriving DecidableEq, Repr

namespace Bracketed

def brackets : Bracketed → Brackets
  | .command | .process => parentheses
  | .parameter => braces

/-- The text before the body. -/
def opening : Bracketed → List Char
  | .command => ['$', '(']
  | .parameter => ['$', '\x7b']
  | .process => ['<', '(']

/-- The token that the construct makes of a body.  The name of a parameter is the longest run of
name characters at the front of its body. -/
def kind (body : List Char) : Bracketed → Kind
  | .command => .fragment (.substitution (String.ofList body) false)
  | .parameter => .fragment (.parameter (String.ofList (body.takeWhile isNameChar)))
  | .process => .processSubstitution (String.ofList body)

/-- The expansion that the construct makes of a body between double quotes; a process is not
replaced there. -/
def expansion? (body : List Char) : Bracketed → Option Expansion
  | .command => some (.substitution body)
  | .parameter => some (.parameter (body.takeWhile isNameChar))
  | .process => none

/-- Wherever the construct is opened, the reader takes `taken` with it, makes the construct of
`body`, and goes on reading right behind what it took. -/
structure Takes (k : Bracketed) (taken body rest : List Char) : Prop where
  token : ∀ (pos : Nat) (glued : Bool),
    readTokens pos glued (k.opening ++ (taken ++ rest)) =
      ⟨k.kind body, ⟨pos, pos + Text.byteLength (k.opening ++ taken)⟩⟩ ::
        readTokens (pos + Text.byteLength (k.opening ++ taken)) (k.kind body).isFragment rest
  quoted : ∀ e ∈ k.expansion? body,
    readDoubleQuoted (k.opening ++ (taken ++ rest)) =
      (.expansion e :: (readDoubleQuoted rest).1, (readDoubleQuoted rest).2)

end Bracketed

variable {b : Brackets} {text body rest : List Char}

/-! ## The bracket that closes a body -/

/-- The reader finds the bracket that closes a body. -/
theorem closes_iff (hb : b.Proper) :
    Closes b text body rest ↔
      readBody b 0 .bare text = (body, rest) ∧ text = body ++ b.closing :: rest := by
  constructor
  · rintro ⟨hbody, rfl⟩
    exact ⟨hbody.readBody_closing hb rest, rfl⟩
  · rintro ⟨hread, htext⟩
    have hbody := balancedFrom_readBody b 0 .bare text (by rw [hread]; exact htext)
    rw [hread] at hbody
    exact ⟨hbody, htext⟩

/-- At most one bracket has a complete body before it. -/
theorem Closes.unique
    (hb : b.Proper) (h : Closes b text body rest) {body' rest' : List Char}
    (h' : Closes b text body' rest') : body = body' ∧ rest = rest' := by
  have hread := ((closes_iff hb).mp h).1
  have hread' := ((closes_iff hb).mp h').1
  rw [hread, Prod.mk.injEq] at hread'
  exact hread'

/-- Without such a bracket the body is all of the text. -/
theorem readBody_of_not_closes
    (hb : b.Proper) (h : ∀ body rest, ¬Closes b text body rest) :
    readBody b 0 .bare text = (text, []) := by
  rcases closedOrWhole_readBody b 0 .bare text with htext | hwhole
  · apply absurd ((closes_iff hb).mpr ⟨rfl, htext⟩)
    apply h
  · exact hwhole

theorem not_closes_of_readBody
    (hb : b.Proper) (h : readBody b 0 .bare text = (text, [])) (body rest : List Char) :
    ¬Closes b text body rest := by
  intro hcloses
  obtain ⟨hread, htext⟩ := (closes_iff hb).mp hcloses
  rw [h, Prod.mk.injEq] at hread
  obtain ⟨rfl, rfl⟩ := hread
  simp at htext

/-! ## Constructs -/

namespace Bracketed

theorem brackets_proper (k : Bracketed) : k.brackets.Proper := by
  cases k with
  | command => exact parentheses_proper
  | parameter => exact braces_proper
  | process => exact parentheses_proper

/-- The opening text leads the reader to the body. -/
theorem readToken_opening
    (k : Bracketed) (h : readBody k.brackets 0 .bare text = (body, rest)) :
    ∃ c d, k.opening = [c, d] ∧ isSeparator c = false ∧ c ≠ '\\' ∧
      ∀ glued, readToken glued c (d :: text) = (k.kind body, rest) := by
  cases k with
  | command =>
      refine ⟨'$', '(', rfl, by decide, by decide, ?_⟩
      intro glued
      have hread : readBody parentheses 0 .bare text = (body, rest) := h
      simp [readToken, readDollar, readExpansion, hread, kind]
  | parameter =>
      refine ⟨'$', '\x7b', rfl, by decide, by decide, ?_⟩
      intro glued
      have hread : readBody braces 0 .bare text = (body, rest) := h
      simp [readToken, readDollar, readExpansion, hread, kind]
  | process =>
      refine ⟨'<', '(', rfl, by decide, by decide, ?_⟩
      intro glued
      have hread : readBody parentheses 0 .bare text = (body, rest) := h
      simp [readToken, readInput, hread, kind]

theorem readExpansion_opening
    (k : Bracketed) (h : readBody k.brackets 0 .bare text = (body, rest)) {e : Expansion}
    (he : e ∈ k.expansion? body) :
    ∃ d, k.opening = ['$', d] ∧ readExpansion (d :: text) = some (e, rest) := by
  cases k with
  | command =>
      have hread : readBody parentheses 0 .bare text = (body, rest) := h
      obtain rfl : .substitution body = e := Option.some.inj he
      exact ⟨'(', rfl, by simp [readExpansion, hread]⟩
  | parameter =>
      have hread : readBody braces 0 .bare text = (body, rest) := h
      obtain rfl : .parameter (body.takeWhile isNameChar) = e := Option.some.inj he
      exact ⟨'\x7b', rfl, by simp [readExpansion, hread]⟩
  | process => cases he

theorem takes_of_readBody
    (k : Bracketed) {taken : List Char}
    (h : readBody k.brackets 0 .bare (taken ++ rest) = (body, rest)) :
    k.Takes taken body rest := by
  constructor
  case token =>
    intro pos glued
    obtain ⟨c, d, hopening, hseparator, hslash, hread⟩ := k.readToken_opening h
    have hstart : StartsToken (c :: ((d :: taken) ++ rest)) :=
      startsToken_of_not_separator hseparator hslash
    have htoken := readTokens_token pos glued .nil hstart (hread _)
    rw [hopening]
    exact htoken
  case quoted =>
    intro e he
    obtain ⟨d, hopening, hread⟩ := k.readExpansion_opening h he
    rw [hopening]
    exact readDoubleQuoted_expansion hread

end Bracketed

/-- Bodies are read exactly by their grammar.  Behind what opens a construct, at most one front
of the text is a complete body with the bracket that closes it.  If there is one, the construct
is made of that body, and reading goes on right behind the bracket; if there is none, it is made
of all of the text. -/
theorem body_follows_grammar (k : Bracketed) (text : List Char) :
    (∀ body rest body' rest', Closes k.brackets text body rest →
      Closes k.brackets text body' rest' → body = body' ∧ rest = rest') ∧
    (∀ body rest, Closes k.brackets text body rest →
      text = (body ++ [k.brackets.closing]) ++ rest ∧
        k.Takes (body ++ [k.brackets.closing]) body rest) ∧
    ((∀ body rest, ¬Closes k.brackets text body rest) → k.Takes text text []) := by
  have hb := k.brackets_proper
  refine ⟨?_, ?_, ?_⟩
  · intro body rest body' rest' h h'
    exact h.unique hb h'
  · intro body rest h
    have htext : text = (body ++ [k.brackets.closing]) ++ rest := by
      rw [List.append_assoc]
      exact h.text_eq
    refine ⟨htext, k.takes_of_readBody ?_⟩
    rw [← htext]
    exact ((closes_iff hb).mp h).1
  · intro h
    apply k.takes_of_readBody
    rw [List.append_nil]
    exact readBody_of_not_closes hb h

/-- Brackets in quotes, behind a backslash and in pairs do not close a command; a bracket in an
open quote does not close a parameter. -/
theorem body_ends_behind_hidden_brackets :
    (Closes parentheses "a ')' \"\\\")\" \\) (b)) c".toList "a ')' \"\\\")\" \\) (b)".toList
        " c".toList ∧
      Bracketed.command.Takes "a ')' \"\\\")\" \\) (b))".toList
        "a ')' \"\\\")\" \\) (b)".toList " c".toList) ∧
    (∀ body rest, ¬Closes braces "HOME:-'\\'\"\x7d".toList body rest) ∧
      Bracketed.parameter.Takes "HOME:-'\\'\"\x7d".toList "HOME:-'\\'\"\x7d".toList [] := by
  have hclosed : Closes parentheses "a ')' \"\\\")\" \\) (b)) c".toList
      "a ')' \"\\\")\" \\) (b)".toList " c".toList :=
    (closes_iff parentheses_proper).mpr (by decide +kernel)
  have hopen : ∀ body rest, ¬Closes braces "HOME:-'\\'\"\x7d".toList body rest :=
    not_closes_of_readBody braces_proper (by decide +kernel)
  refine ⟨⟨hclosed, ?_⟩, hopen, ?_⟩
  · exact ((body_follows_grammar .command _).2.1 _ _ hclosed).2
  · exact (body_follows_grammar .parameter _).2.2 hopen

end Command
end MetricsScript
