import MetricsScript.Run.Configuration
import MetricsScript.Script

/-!
# The plan of a run

The plan lists the commands of a run in order: a pull if one is wanted, the command lines of
the script, and a push if one is wanted.
-/

namespace MetricsScript
namespace Run

/-- The commands that come before the script. -/
def Flags.opening (flags : Flags) : List String :=
  if flags.wantsPull then ["pull"] else []

/-- The commands that come after the script. -/
def Flags.closing (flags : Flags) : List String :=
  if flags.wantsPush then ["push"] else []

/-- All commands of a run, in order. -/
def plan (script : String) (flags : Flags) : List String :=
  flags.opening ++ commandLines script ++ flags.closing

end Run
end MetricsScript
