import MetricsScript.Command.Body
import MetricsScript.Command.Token

/-!
# Operators and redirections

Each reader here starts behind the first character of an operator and takes the longest
operator that the text spells.
-/

namespace MetricsScript
namespace Command

/-- Reads the operator whose first character `&` has been read. -/
def readAmpersand : List Char → Kind × List Char
  | '&' :: cs => (.control .andIf, cs)
  | '>' :: '>' :: cs => (.redirectBoth true, cs)
  | '>' :: cs => (.redirectBoth false, cs)
  | cs => (.control .background, cs)

/-- Reads the operator whose first character `|` has been read. -/
def readPipe : List Char → Kind × List Char
  | '|' :: cs => (.control .orIf, cs)
  | '&' :: cs => (.control .pipeBoth, cs)
  | cs => (.control .pipe, cs)

/-- Reads the operator whose first character `;` has been read. -/
def readSemicolon : List Char → Kind × List Char
  | ';' :: cs => (.control .doubleSemicolon, cs)
  | cs => (.control .semicolon, cs)

/-- Reads the redirection whose first character `>` has been read.  The form `>|` is a plain
output redirection. -/
def readOutput (descriptor : Option UInt32) : List Char → Kind × List Char
  | '>' :: cs => (.redirect descriptor .append, cs)
  | '&' :: cs => (.redirect descriptor .duplicateOutput, cs)
  | '|' :: cs => (.redirect descriptor .output, cs)
  | cs => (.redirect descriptor .output, cs)

/-- Reads the redirection whose first character `<` has been read.  The form `<<-` is a plain
here-document, and only without a descriptor does `<(` open a process substitution. -/
def readInput (descriptor : Option UInt32) : List Char → Kind × List Char
  | '<' :: '<' :: cs => (.redirect descriptor .hereString, cs)
  | '<' :: '-' :: cs => (.redirect descriptor .hereDocument, cs)
  | '<' :: cs => (.redirect descriptor .hereDocument, cs)
  | '&' :: cs => (.redirect descriptor .duplicateInput, cs)
  | '(' :: cs =>
      match descriptor with
      | none =>
          let (body, rest) := readBody parentheses 0 .bare cs
          (.processSubstitution (String.ofList body), rest)
      | some n => (.redirect (some n) .input, '(' :: cs)
  | cs => (.redirect descriptor .input, cs)

/-- Reading an operator never lengthens the text. -/
theorem readAmpersand_rest_le (cs : List Char) :
    (readAmpersand cs).2.length ≤ cs.length := by
  fun_cases readAmpersand cs with
  | case1 cs => simp
  | case2 cs =>
      simp only [List.length_cons]
      omega
  | case3 cs => simp
  | case4 cs => simp

/-- Reading an operator never lengthens the text. -/
theorem readPipe_rest_le (cs : List Char) : (readPipe cs).2.length ≤ cs.length := by
  fun_cases readPipe cs <;> simp

/-- Reading an operator never lengthens the text. -/
theorem readSemicolon_rest_le (cs : List Char) :
    (readSemicolon cs).2.length ≤ cs.length := by
  fun_cases readSemicolon cs <;> simp

/-- Reading a redirection never lengthens the text. -/
theorem readOutput_rest_le (descriptor : Option UInt32) (cs : List Char) :
    (readOutput descriptor cs).2.length ≤ cs.length := by
  fun_cases readOutput descriptor cs <;> simp

/-- Reading a redirection never lengthens the text. -/
theorem readInput_rest_le (descriptor : Option UInt32) (cs : List Char) :
    (readInput descriptor cs).2.length ≤ cs.length := by
  fun_cases readInput descriptor cs with
  | case5 cs body rest h =>
      have := readBody_rest_le parentheses 0 .bare cs
      simp_all
      omega
  | _ => simp <;> omega

end Command
end MetricsScript
