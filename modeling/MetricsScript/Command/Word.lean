import MetricsScript.Text.Decimal

/-!
# Plain words

A word is unquoted text up to the next blank, operator, expansion or quote.  A backslash
makes the next character literal, and a backslash before a line break joins two lines.
-/

namespace MetricsScript
namespace Command

/-- The blank characters between tokens. -/
def isSeparator (c : Char) : Bool :=
  c == ' ' || c == '\t' || c == '\n' || c == '\r'

/-- The characters that end a word. -/
def isWordBoundary (c : Char) : Bool :=
  isSeparator c || c == '&' || c == '|' || c == ';' || c == '$' || c == '\x60' ||
    c == '<' || c == '>' || c == '(' || c == ')' || c == '\'' || c == '"'

/-- The characters that make a word a glob when they are not escaped. -/
def isGlobChar (c : Char) : Bool :=
  c == '*' || c == '?'

/-- An unquoted word: its text, and whether it is a glob. -/
structure Word where
  text : List Char
  glob : Bool
deriving DecidableEq, Repr

/-- The word with one more character in front. -/
def Word.cons (c : Char) (w : Word) : Word :=
  { w with text := c :: w.text }

/-- The word with one more unescaped character in front. -/
def Word.consPlain (c : Char) (w : Word) : Word :=
  { text := c :: w.text, glob := isGlobChar c || w.glob }

/-- Reads the word at the front of a text.  A line continuation, a backslash before LF or
CRLF, is dropped; a backslash at the very end stands for itself. -/
def readWord : List Char → Word × List Char
  | [] => (⟨[], false⟩, [])
  | '\\' :: '\n' :: cs => readWord cs
  | '\\' :: '\r' :: '\n' :: cs => readWord cs
  | '\\' :: c :: cs =>
      let (word, rest) := readWord cs
      (word.cons c, rest)
  | c :: cs =>
      if isWordBoundary c then (⟨[], false⟩, c :: cs)
      else
        let (word, rest) := readWord cs
        (word.consPlain c, rest)

/-- Drops the separators and line continuations at the front of a text. -/
def skipBlanks : List Char → List Char
  | [] => []
  | '\\' :: '\n' :: cs => skipBlanks cs
  | '\\' :: '\r' :: '\n' :: cs => skipBlanks cs
  | c :: cs => if isSeparator c then skipBlanks cs else c :: cs

/-- The file descriptor that a word names when a redirection follows it: a numeral below
2^32. -/
def descriptor? (word : List Char) : Option UInt32 :=
  match Text.numeral? word with
  | some n => if h : n < UInt32.size then some (UInt32.ofNatLT n h) else none
  | none => none

/-- Reading a word never lengthens the text. -/
theorem readWord_rest_le (cs : List Char) : (readWord cs).2.length ≤ cs.length := by
  fun_induction readWord cs <;> simp_all <;> omega

/-- A word that starts with a character of its own takes at least that character. -/
theorem readWord_rest_lt
    {c : Char}
    (h : isWordBoundary c = false)
    (cs : List Char) :
    (readWord (c :: cs)).2.length < (c :: cs).length := by
  have hle := readWord_rest_le cs
  rw [readWord.eq_def]
  split
  · simp
  all_goals
    rename_i heq
    try simp only [List.cons.injEq] at heq
    try obtain ⟨rfl, rfl⟩ := heq
  · rename_i ds
    have := readWord_rest_le ds
    simp; omega
  · rename_i ds
    have := readWord_rest_le ds
    simp; omega
  · rename_i ds _ _
    have := readWord_rest_le ds
    simp; omega
  · simp [h]; omega

/-- Skipping blanks never lengthens the text. -/
theorem skipBlanks_le (cs : List Char) : (skipBlanks cs).length ≤ cs.length := by
  fun_induction skipBlanks cs <;> simp_all <;> omega

/-- What is left after the blanks does not start with a separator. -/
theorem isSeparator_of_skipBlanks
    {cs : List Char} {c : Char} {rest : List Char}
    (h : skipBlanks cs = c :: rest) :
    isSeparator c = false := by
  fun_induction skipBlanks cs <;> simp_all

end Command
end MetricsScript
