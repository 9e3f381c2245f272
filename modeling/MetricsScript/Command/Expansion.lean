import MetricsScript.Text.Decimal
import MetricsScript.Command.Body

/-!
# Expansions

What a shell would replace: parameters such as `$HOME`, `$?` and `${name:-default}`, and
commands in `$(...)` or in backticks.  They are recognised so that they can be discarded.
-/

namespace MetricsScript
namespace Command

/-- Something that a shell would replace. -/
inductive Expansion where
  | parameter (name : List Char)
  | substitution (content : List Char)
deriving DecidableEq, Repr

/-- The one-character parameters. -/
def isSpecialParameter (c : Char) : Bool :=
  c == '?' || c == '$' || c == '#' || c == '!' || c == '@' || c == '*' || c == '-' ||
    Text.isDigit c

/-- The characters that a name can start with: the ASCII letters and `_`. -/
def isNameStart (c : Char) : Bool :=
  ('a' ≤ c && c ≤ 'z') || ('A' ≤ c && c ≤ 'Z') || c == '_'

/-- The characters of a name: the ASCII letters and digits, and `_`. -/
def isNameChar (c : Char) : Bool :=
  isNameStart c || Text.isDigit c

/-- Reads the expansion after a `$`; nothing if the `$` stands for itself.  The name of a
braced parameter is the longest run of name characters at the front of its body. -/
def readExpansion : List Char → Option (Expansion × List Char)
  | [] => none
  | c :: cs =>
      if c = '(' then
        let (body, rest) := readBody parentheses 0 .bare cs
        some (.substitution body, rest)
      else if c = '\x7b' then
        let (body, rest) := readBody braces 0 .bare cs
        some (.parameter (body.takeWhile isNameChar), rest)
      else if isSpecialParameter c then some (.parameter [c], cs)
      else if isNameStart c then
        some (.parameter ((c :: cs).takeWhile isNameChar), (c :: cs).dropWhile isNameChar)
      else none

/-- Reads a command in backticks, the first of which has been read.  A backslash takes the
next character as it is; one at the very end is dropped. -/
def readBackticks : List Char → List Char × List Char
  | [] => ([], [])
  | ['\\'] => ([], [])
  | '\\' :: c :: cs =>
      let (content, rest) := readBackticks cs
      (c :: content, rest)
  | c :: cs =>
      if c = '\x60' then ([], cs)
      else
        let (content, rest) := readBackticks cs
        (c :: content, rest)

/-- An expansion takes at least one character. -/
theorem readExpansion_rest_lt
    {cs rest : List Char} {e : Expansion}
    (h : readExpansion cs = some (e, rest)) :
    rest.length < cs.length := by
  cases cs with
  | nil => simp [readExpansion] at h
  | cons c cs =>
      have hparen := readBody_rest_le parentheses 0 .bare cs
      have hbrace := readBody_rest_le braces 0 .bare cs
      have hname := (List.dropWhile_sublist isNameChar (l := cs)).length_le
      simp only [readExpansion] at h
      split at h
      · cases h
        simp only [List.length_cons]
        omega
      split at h
      · cases h
        simp only [List.length_cons]
        omega
      split at h
      · cases h
        simp
      split at h
      · next hstart =>
          have hchar : isNameChar c = true := by simp [isNameChar, hstart]
          cases h
          simp only [List.dropWhile, hchar, List.length_cons]
          omega
      · cases h

/-- Reading backticks never lengthens the text. -/
theorem readBackticks_rest_le (cs : List Char) :
    (readBackticks cs).2.length ≤ cs.length := by
  fun_induction readBackticks cs <;> simp_all <;> omega

end Command
end MetricsScript
