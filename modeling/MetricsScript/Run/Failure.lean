import MetricsScript.SystemError

/-!
# Records and failures

A record is kept of every command that ran to its end.  A failure says why a run stopped
before the end of its plan.
-/

namespace MetricsScript
namespace Run

/-- What came of one command.  The command is kept as it stands in the plan. -/
structure Record where
  command : String
  code : Int32
  stdout : String
  stderr : String
deriving DecidableEq, Repr

/-- Why a run stopped early. -/
inductive Failure where
  /-- A command ended without success, and failures were not to be passed over. -/
  | commandFailed (command : String) (code : Int32)
  /-- The program could not be started, or its output could not be read. -/
  | launchFailed (command program : String) (cause : SystemError)
deriving DecidableEq, Repr

/-- The command that stopped the run. -/
def Failure.command : Failure → String
  | .commandFailed command _ => command
  | .launchFailed command _ _ => command

/-- The failure in words. -/
def Failure.message : Failure → String
  | .commandFailed command code =>
      "command " ++ command ++ " failed with exit code " ++ toString code.toInt
  | .launchFailed command program cause =>
      "failed to run \x60" ++ program ++ "\x60 for command " ++ command ++ ": " ++ cause.message

end Run
end MetricsScript
