import MetricsScript.Text.Lines

/-!
# Scripts

A script holds one command per line.  Lines are trimmed and blank lines are skipped, so
carriage returns at the ends of lines do not matter.
-/

namespace MetricsScript

/-- The command lines of a script, in order. -/
def commandLines (script : String) : List String :=
  (((Text.pieces script.toList).map Text.trimChars).filter fun line => !line.isEmpty).map
    String.ofList

end MetricsScript
