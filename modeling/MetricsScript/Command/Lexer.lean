import MetricsScript.Text.Width
import MetricsScript.Command.Operator
import MetricsScript.Command.Quoted
import MetricsScript.Command.Word

/-!
# Reading a command line as tokens

The reader recognises the whole surface of a shell command line, so that what is not literal
can be told apart and discarded.  It never fails.

`#` opens a comment unless it stands directly behind a fragment; there it continues a word.
-/

namespace MetricsScript
namespace Command

/-- Whether a comment runs on over this character. -/
def isCommentChar (c : Char) : Bool :=
  c != '\n' && c != '\r'

/-- Reads a comment, its `#` having been read. -/
def readComment (cs : List Char) : Kind × List Char :=
  (.comment (String.ofList (cs.takeWhile isCommentChar)), cs.dropWhile isCommentChar)

/-- The token that a word makes when no redirection takes it as its descriptor. -/
def Word.toKind (w : Word) : Kind :=
  if w.glob then .fragment (.glob (String.ofList w.text))
  else .fragment (.word (String.ofList w.text))

/-- Reads a word, or the redirection that a word of digits is the descriptor of. -/
def readPlain (cs : List Char) : Kind × List Char :=
  match readWord cs with
  | (w, '>' :: rest) =>
      match descriptor? w.text with
      | some n => readOutput (some n) rest
      | none => (w.toKind, '>' :: rest)
  | (w, '<' :: rest) =>
      match descriptor? w.text with
      | some n => readInput (some n) rest
      | none => (w.toKind, '<' :: rest)
  | (w, rest) => (w.toKind, rest)

/-- Reads what a `$` opens.  A `$` that opens nothing is the first character of a word. -/
def readDollar (cs : List Char) : Kind × List Char :=
  match readExpansion cs with
  | some (.parameter name, rest) => (.fragment (.parameter (String.ofList name)), rest)
  | some (.substitution content, rest) =>
      (.fragment (.substitution (String.ofList content) false), rest)
  | none =>
      let (w, rest) := readWord cs
      ((w.cons '$').toKind, rest)

/-- Reads the token that starts with `c` and goes on with `cs`; `glued` says that a fragment
ends directly before it. -/
def readToken (glued : Bool) (c : Char) (cs : List Char) : Kind × List Char :=
  if c = '#' && !glued then readComment cs
  else if c = '&' then readAmpersand cs
  else if c = '|' then readPipe cs
  else if c = ';' then readSemicolon cs
  else if c = '(' then (.control .openParen, cs)
  else if c = ')' then (.control .closeParen, cs)
  else if c = '>' then readOutput none cs
  else if c = '<' then readInput none cs
  else if c = '$' then readDollar cs
  else if c = '\x60' then
    let (content, rest) := readBackticks cs
    (.fragment (.substitution (String.ofList content) true), rest)
  else if c = '\'' then
    let (text, rest) := readSingleQuoted cs
    (.fragment (.singleQuoted (String.ofList text)), rest)
  else if c = '"' then
    let (pieces, rest) := readDoubleQuoted cs
    (.fragment (.doubleQuoted (QuotedPart.ofPieces pieces)), rest)
  else readPlain (c :: cs)

/-- A comment takes no more than there is. -/
theorem readComment_rest_le (cs : List Char) : (readComment cs).2.length ≤ cs.length :=
  (List.dropWhile_sublist isCommentChar (l := cs)).length_le

/-- Reading what a `$` opens never lengthens the text. -/
theorem readDollar_rest_le (cs : List Char) : (readDollar cs).2.length ≤ cs.length := by
  have hword := readWord_rest_le cs
  unfold readDollar
  split
  · next h => exact Nat.le_of_lt (readExpansion_rest_lt h)
  · next h => exact Nat.le_of_lt (readExpansion_rest_lt h)
  · exact hword

/-- A plain token is no longer than its word and the redirection behind it. -/
theorem readPlain_rest_le (cs : List Char) :
    (readPlain cs).2.length ≤ (readWord cs).2.length := by
  unfold readPlain
  split
  · next h =>
      split
      · simp only [h, List.length_cons]
        exact Nat.le_succ_of_le (readOutput_rest_le _ _)
      · simp [h]
  · next h =>
      split
      · simp only [h, List.length_cons]
        exact Nat.le_succ_of_le (readInput_rest_le _ _)
      · simp [h]
  · next h => simp [h]

/-- A bound on both branches of a choice bounds the choice. -/
theorem rest_ite_le
    {p : Prop} [Decidable p] {a b : Kind × List Char} {n : Nat}
    (ha : a.2.length ≤ n)
    (hb : ¬p → b.2.length ≤ n) :
    (if p then a else b).2.length ≤ n := by
  by_cases h : p
  · rw [if_pos h]
    exact ha
  · rw [if_neg h]
    exact hb h

/-- Each token takes at least one character. -/
theorem readToken_rest_le
    {c : Char}
    (h : isSeparator c = false)
    (glued : Bool) (cs : List Char) :
    (readToken glued c cs).2.length ≤ cs.length := by
  unfold readToken
  refine rest_ite_le (readComment_rest_le cs) fun _ => ?_
  refine rest_ite_le (readAmpersand_rest_le cs) fun h₁ => ?_
  refine rest_ite_le (readPipe_rest_le cs) fun h₂ => ?_
  refine rest_ite_le (readSemicolon_rest_le cs) fun h₃ => ?_
  refine rest_ite_le (Nat.le_refl _) fun h₄ => ?_
  refine rest_ite_le (Nat.le_refl _) fun h₅ => ?_
  refine rest_ite_le (readOutput_rest_le none cs) fun h₆ => ?_
  refine rest_ite_le (readInput_rest_le none cs) fun h₇ => ?_
  refine rest_ite_le (readDollar_rest_le cs) fun h₈ => ?_
  refine rest_ite_le (readBackticks_rest_le cs) fun h₉ => ?_
  refine rest_ite_le (readSingleQuoted_rest_le cs) fun h₁₀ => ?_
  refine rest_ite_le (readDoubleQuoted_rest_le cs) fun h₁₁ => ?_
  have hboundary : isWordBoundary c = false := by
    simp [isWordBoundary, h, h₁, h₂, h₃, h₄, h₅, h₆, h₇, h₈, h₉, h₁₀, h₁₁]
  have hword := readWord_rest_lt hboundary cs
  have hplain := readPlain_rest_le (c :: cs)
  simp only [List.length_cons] at hword
  omega

/-- The token behind the blanks of a text leaves a shorter text. -/
theorem readToken_rest_lt_of_skipBlanks
    {cs body : List Char} {c : Char}
    (h : skipBlanks cs = c :: body)
    (glued : Bool) :
    (readToken glued c body).2.length < cs.length := by
  have hle := skipBlanks_le cs
  simp only [h, List.length_cons] at hle
  exact Nat.lt_of_le_of_lt (readToken_rest_le (isSeparator_of_skipBlanks h) glued body) hle

/-- Reads all tokens of a text that begins at offset `pos`; `glued` says that a fragment ends
at `pos`. -/
def readTokens (pos : Nat) (glued : Bool) (cs : List Char) : List Token :=
  match h : skipBlanks cs with
  | [] => []
  | c :: body =>
      let start := pos + (Text.byteLength cs - Text.byteLength (c :: body))
      let read := readToken (glued && start == pos) c body
      let stop := start + (Text.byteLength (c :: body) - Text.byteLength read.2)
      have := readToken_rest_lt_of_skipBlanks h (glued && start == pos)
      ⟨read.1, ⟨start, stop⟩⟩ :: readTokens stop read.1.isFragment read.2
termination_by cs.length

/-- The tokens of a command line, in order. -/
def tokens (line : String) : List Token :=
  readTokens 0 false line.toList

end Command
end MetricsScript
