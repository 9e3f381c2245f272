/-!
# Error annotations

The host of a workflow reads commands from standard output, one a line.  A message is put
into such a line by escaping what would end it, and the escape's own mark first of all.
-/

namespace MetricsScript
namespace Publish

/-- The characters with `text` in place of every `c`. -/
def replaceChar (c : Char) (text : List Char) (cs : List Char) : List Char :=
  cs.flatMap fun d => if d = c then text else [d]

/-- The message as the data of a workflow command. -/
def escapeData (message : String) : String :=
  let percent := replaceChar '%' ['%', '2', '5'] message.toList
  let returns := replaceChar '\r' ['%', '0', 'D'] percent
  String.ofList (replaceChar '\n' ['%', '0', 'A'] returns)

/-- The workflow command that reports an error. -/
def errorAnnotation (message : String) : String :=
  "::error::" ++ escapeData message

end Publish
end MetricsScript
