import MetricsScript.Run.Failure
import MetricsScript.Text.Lines

/-!
# A summary for people

The summary has a block for each record: a line that tells how the command ended, and an
indented line for every line of its output.
-/

namespace MetricsScript
namespace Publish

/-- The first line of a record's block. -/
def summaryHeader (record : Run.Record) : String :=
  (if record.code = 0 then "ok" else "FAILED") ++ " [" ++ toString record.code.toInt ++ "] " ++
    record.command

/-- The lines for one stream of a record. -/
def summaryStream (label text : String) : List String :=
  (Text.lines text).map fun line => "  " ++ label ++ ": " ++ line

/-- The lines of a record's block. -/
def summaryBlock (record : Run.Record) : List String :=
  summaryHeader record ::
    (summaryStream "stdout" record.stdout ++ summaryStream "stderr" record.stderr)

/-- The summary of records, every line of it ended by a newline. -/
def summary (records : List Run.Record) : String :=
  String.join ((records.flatMap summaryBlock).map fun line => line ++ "\n")

end Publish
end MetricsScript
