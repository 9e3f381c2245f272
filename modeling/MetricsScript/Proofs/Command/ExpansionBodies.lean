import MetricsScript.Proofs.Command.Assembly
import MetricsScript.Proofs.Command.Bodies
import MetricsScript.Proofs.Command.Closed
import MetricsScript.Proofs.Command.Quotes

/-!
# Bodies of expansions

What stands in `$(...)`, in `${...}` or between backticks is no argument.  It cannot reach the
arguments in another way either: two command lines that differ in such a body alone have the
same arguments, although all that stands behind the body is at other offsets.
-/

namespace MetricsScript
namespace Command

/-- The complete commands between backticks: no backtick stands in them and no backslash at
their end, unless a backslash escapes it. -/
inductive BacktickBody : List Char → Prop
  | nil : BacktickBody []
  | escaped {c : Char} {cs : List Char} : BacktickBody cs → BacktickBody ('\\' :: c :: cs)
  | plain {c : Char} {cs : List Char} :
      c ≠ '\\' → c ≠ '\x60' → BacktickBody cs → BacktickBody (c :: cs)

/-- The constructs with a body that a shell would evaluate. -/
inductive Wrapping where
  | command
  | parameter
  | backticks
deriving DecidableEq, Repr

/-- What opens the construct. -/
def Wrapping.opening : Wrapping → String
  | .command => "$("
  | .parameter => "$\x7b"
  | .backticks => "\x60"

/-- What closes the construct. -/
def Wrapping.closing : Wrapping → String
  | .command => ")"
  | .parameter => "\x7d"
  | .backticks => "\x60"

/-- The construct with a body. -/
def Wrapping.wrap (w : Wrapping) (body : String) : String :=
  w.opening ++ body ++ w.closing

/-- Nothing is left open at the end of the body. -/
def Wrapping.Complete (w : Wrapping) (body : String) : Prop :=
  match w with
  | .command => Balanced parentheses body.toList
  | .parameter => Balanced braces body.toList
  | .backticks => BacktickBody body.toList

/-! ## A construct as one fragment -/

/-- A complete command between backticks ends at the backtick behind it. -/
theorem BacktickBody.readBackticks {body : List Char} (h : BacktickBody body) :
    ∃ content, ∀ rest,
      Command.readBackticks (body ++ '\x60' :: rest) = (content, rest) := by
  induction h with
  | nil => exact ⟨[], fun rest => by simp [Command.readBackticks]⟩
  | @escaped c cs _ ih =>
      obtain ⟨content, hcontent⟩ := ih
      exact ⟨c :: content, fun rest => by simp [Command.readBackticks, hcontent rest]⟩
  | @plain c cs hslash hbacktick _ ih =>
      obtain ⟨content, hcontent⟩ := ih
      exact ⟨c :: content, fun rest => by
        simp [Command.readBackticks, hslash, hbacktick, hcontent rest]⟩

/-- A complete construct with a `$` in front is one expansion, whatever stands behind it. -/
theorem Wrapping.Complete.readExpansion
    {w : Wrapping} {body : String} (h : w.Complete body) (hw : w ≠ .backticks) :
    ∃ text e, (w.wrap body).toList = '$' :: text ∧
      ∀ rest, Command.readExpansion (text ++ rest) = some (e, rest) := by
  cases w with
  | command =>
      refine ⟨'(' :: (body.toList ++ [')']), .substitution body.toList, ?_, fun rest => ?_⟩
      · simp [wrap, opening, closing]
      · have hbody := Balanced.readBody_closing parentheses_proper h rest
        rw [List.cons_append, List.append_assoc, List.singleton_append, Command.readExpansion,
          if_pos rfl]
        rw [show parentheses.closing = ')' from rfl] at hbody
        rw [hbody]
  | parameter =>
      refine ⟨'\x7b' :: (body.toList ++ ['\x7d']),
        .parameter (body.toList.takeWhile isNameChar), ?_, fun rest => ?_⟩
      · simp [wrap, opening, closing]
      · have hbody := Balanced.readBody_closing braces_proper h rest
        rw [List.cons_append, List.append_assoc, List.singleton_append, Command.readExpansion,
          if_neg (by decide), if_pos rfl]
        rw [show braces.closing = '\x7d' from rfl] at hbody
        rw [hbody]
  | backticks => exact absurd rfl hw

/-- A text that is read as one fragment, whatever stands before and behind it. -/
def ReadAs (text : List Char) (f : Fragment) : Prop :=
  ∃ c cs, text = c :: cs ∧ isNeutral c = true ∧ isSeparator c = false ∧
    ∀ glued rest, readToken glued c (cs ++ rest) = (.fragment f, rest)

theorem ReadAs.startsNeutral {text : List Char} {f : Fragment} (h : ReadAs text f)
    (next : List Char) : StartsNeutral (text ++ next) := by
  obtain ⟨c, cs, rfl, hneutral, -, -⟩ := h
  intro y hy
  obtain rfl : c = y := by simpa using hy
  exact hneutral

/-- An expansion adds nothing to its argument. -/
theorem Wrapping.Complete.readAs
    {w : Wrapping} {body : String} (h : w.Complete body) :
    ∃ f, ReadAs (w.wrap body).toList f ∧ f.SameLiterals (.parameter "") := by
  by_cases hw : w = .backticks
  · subst hw
    obtain ⟨content, hcontent⟩ := BacktickBody.readBackticks h
    refine ⟨.substitution (String.ofList content) true,
      ⟨'\x60', body.toList ++ ['\x60'], ?_, by decide, by decide, fun glued rest => ?_⟩,
      ⟨rfl, rfl, rfl⟩⟩
    · simp [wrap, opening, closing]
    · rw [List.append_assoc, List.singleton_append]
      simp [readToken, hcontent rest]
  · obtain ⟨text, e, htext, hread⟩ := h.readExpansion hw
    cases e with
    | parameter name =>
        refine ⟨.parameter (String.ofList name),
          ⟨'$', text, htext, by decide, by decide, fun glued rest => ?_⟩, ⟨rfl, rfl, rfl⟩⟩
        simp [readToken, readDollar, hread rest]
    | substitution content =>
        refine ⟨.substitution (String.ofList content) false,
          ⟨'$', text, htext, by decide, by decide, fun glued rest => ?_⟩, ⟨rfl, rfl, rfl⟩⟩
        simp [readToken, readDollar, hread rest]

/-- Literal text stands for itself between double quotes. -/
theorem readDoubleQuoted_literal
    {text : List Char} (h : ∀ c ∈ text, isQuotedEscape c = false) (rest : List Char) :
    readDoubleQuoted (text ++ rest) =
      (text.map .char ++ (readDoubleQuoted rest).1, (readDoubleQuoted rest).2) := by
  have hread := readDoubleQuoted_escapeQuoted text rest
  rwa [escapeQuoted_eq_self h] at hread

/-- Double quotes around an expansion keep the literal text beside it. -/
theorem Wrapping.Complete.quoted_readAs
    {w : Wrapping} {body before after : String} (h : w.Complete body) (hw : w ≠ .backticks)
    (hbefore : ∀ c ∈ before.toList, isQuotedEscape c = false)
    (hafter : ∀ c ∈ after.toList, isQuotedEscape c = false) :
    ∃ f, ReadAs ("\"" ++ before ++ w.wrap body ++ after ++ "\"").toList f ∧
      f.SameLiterals (.singleQuoted (before ++ after)) := by
  obtain ⟨text, e, htext, hread⟩ := h.readExpansion hw
  let pieces : List QuotedPiece :=
    before.toList.map .char ++ .expansion e :: after.toList.map .char
  have hquoted : ∀ rest, readDoubleQuoted (before.toList ++ '$' :: (text ++ (after.toList ++
      '"' :: rest))) = (pieces, rest) := by
    intro rest
    rw [readDoubleQuoted_literal hbefore, readDoubleQuoted_expansion (hread _),
      readDoubleQuoted_literal hafter, readDoubleQuoted_close]
    simp [pieces]
  refine ⟨.doubleQuoted (QuotedPart.ofPieces pieces),
    ⟨'"', before.toList ++ '$' :: (text ++ (after.toList ++ ['"'])), ?_, by decide, by decide,
      fun glued rest => ?_⟩, ⟨?_, rfl, rfl⟩⟩
  · simp [htext]
  · have hrest := hquoted rest
    simp [readToken, hrest]
  · rw [literalText_doubleQuoted]
    simp only [pieces, List.flatMap_append, List.flatMap_cons, flatMap_literal_map_char]
    simp [QuotedPiece.literal, Fragment.literalText]

/-! ## The arguments behind a construct -/

/-- Behind a closed line the arguments depend on a fragment by its literals alone. -/
theorem ReadAs.arguments_eq
    {front : String} (hfront : Closed front) {text : String} {f g : Fragment}
    (h : ReadAs text.toList f) (hfg : f.SameLiterals g)
    (hdollar : front.toList.getLast? ≠ some '$') (next : String) :
    arguments (front ++ text ++ next) =
      assemble none (tokens front ++
        ⟨.fragment g, ⟨Text.byteLength front.toList, Text.byteLength front.toList⟩⟩ ::
          readTokens (Text.byteLength front.toList) true next.toList) := by
  obtain ⟨pos, glued, gap, hgap, hpos, hfrontnext⟩ := hfront.readTokens_append
  have hline := hfrontnext (text.toList ++ next.toList) (h.startsNeutral next.toList)
    fun hlast => absurd hlast hdollar
  obtain ⟨c, cs, htext, hneutral, hseparator, hread⟩ := h
  have hslash : c ≠ '\\' := by
    rintro rfl
    exact absurd hneutral (by decide)
  have hstart : StartsToken (c :: (cs ++ next.toList)) :=
    startsToken_of_not_separator hseparator hslash
  rw [htext, List.cons_append, readTokens_token _ _ hgap hstart (hread _ _), hpos,
    readTokens_add] at hline
  simp only [arguments, tokens, String.toList_append, List.append_assoc, htext,
    List.cons_append]
  rw [hline]
  exact assemble_append_congr (fun pending => assemble_fragment_shift hfg _ _ _ _ pending) _ _

/-- The body of an expansion cannot influence the arguments.  Behind a closed line that does
not end in `$`, two complete bodies give the same arguments, whatever comes after them.  So do
two bodies between double quotes, with the same literal text beside them. -/
theorem arguments_of_bodies
    {front : String} (hfront : Closed front) (hdollar : front.toList.getLast? ≠ some '$')
    {w : Wrapping} {body₁ body₂ : String} (h₁ : w.Complete body₁) (h₂ : w.Complete body₂)
    (next : String) :
    arguments (front ++ w.wrap body₁ ++ next) = arguments (front ++ w.wrap body₂ ++ next) ∧
      (w ≠ .backticks → ∀ before after : String,
        (∀ c ∈ before.toList, isQuotedEscape c = false) →
        (∀ c ∈ after.toList, isQuotedEscape c = false) →
          arguments (front ++ ("\"" ++ before ++ w.wrap body₁ ++ after ++ "\"") ++ next) =
            arguments (front ++ ("\"" ++ before ++ w.wrap body₂ ++ after ++ "\"") ++ next)) := by
  constructor
  · obtain ⟨f₁, hread₁, hsame₁⟩ := h₁.readAs
    obtain ⟨f₂, hread₂, hsame₂⟩ := h₂.readAs
    rw [hread₁.arguments_eq hfront hsame₁ hdollar, hread₂.arguments_eq hfront hsame₂ hdollar]
  · intro hw before after hbefore hafter
    obtain ⟨f₁, hread₁, hsame₁⟩ := h₁.quoted_readAs hw hbefore hafter
    obtain ⟨f₂, hread₂, hsame₂⟩ := h₂.quoted_readAs hw hbefore hafter
    rw [hread₁.arguments_eq hfront hsame₁ hdollar, hread₂.arguments_eq hfront hsame₂ hdollar]

/-- A command with brackets in quotes, behind a backslash and around a word, against no
command: `#1` goes on with the argument before it in both lines. -/
theorem arguments_of_nested_command :
    arguments ("sh \"a b\"" ++ Wrapping.command.wrap "rm ')' \"(\" \\) (x)" ++ "#1 'c'") =
        arguments ("sh \"a b\"" ++ Wrapping.command.wrap "" ++ "#1 'c'") ∧
      arguments ("sh \"a b\"" ++
          ("\"" ++ "'" ++ Wrapping.command.wrap "rm ')' \"(\" \\) (x)" ++ "'" ++ "\"") ++
          "#1 'c'") =
        arguments ("sh \"a b\"" ++
          ("\"" ++ "'" ++ Wrapping.command.wrap "" ++ "'" ++ "\"") ++ "#1 'c'") := by
  have hfront : Closed "sh \"a b\"" := by decide +kernel
  have hnested : Wrapping.command.Complete "rm ')' \"(\" \\) (x)" :=
    (balanced_iff parentheses_proper).mpr (by decide +kernel)
  have hempty : Wrapping.command.Complete "" := Balanced.nil
  have h := arguments_of_bodies hfront (by decide +kernel) hnested hempty "#1 'c'"
  exact ⟨h.1, h.2 (by decide) "'" "'" (by simp [isQuotedEscape])
    (by simp [isQuotedEscape])⟩

end Command
end MetricsScript
