import MetricsScript.Tool.Invocation

/-!
# Configuration of a run

The configuration says which program runs the commands and how.  It stays the same for all
runs; the flags of a single run say whether the script is bracketed by a pull and a push.
-/

namespace MetricsScript
namespace Run

/-- How commands are run. -/
structure Configuration where
  /-- The program that is started for every command. -/
  program : String := "git-metrics"
  /-- The backend that the program is asked to use. -/
  backend : String := "command"
  /-- The verbosity that the program is asked for. -/
  verbosity : UInt8 := 5
  /-- Whether a command that fails leaves the rest of the plan standing. -/
  continueOnError : Bool := false
  /-- Whether output is shown while a command works. -/
  echo : Bool := false
deriving DecidableEq, Repr, Inhabited

/-- The invocation for a command's arguments.  The backend and the verbosity travel in the
environment. -/
def Configuration.invocation (config : Configuration) (arguments : List String) :
    Tool.Invocation where
  program := config.program
  arguments := arguments
  environment :=
    [("GIT_BACKEND", config.backend), ("VERBOSITY", toString config.verbosity.toNat)]
  echo := config.echo

/-- How a single run is bracketed.  To sync is to pull and to push. -/
structure Flags where
  pull : Bool := false
  push : Bool := false
  sync : Bool := false
deriving DecidableEq, Repr, Inhabited

/-- Whether the run starts with a pull. -/
def Flags.wantsPull (flags : Flags) : Bool :=
  flags.sync || flags.pull

/-- Whether the run ends with a push. -/
def Flags.wantsPush (flags : Flags) : Bool :=
  flags.sync || flags.push

end Run
end MetricsScript
