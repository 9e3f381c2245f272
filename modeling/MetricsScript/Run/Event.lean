import MetricsScript.Run.Failure
import MetricsScript.Text.Quoted

/-!
# The trace of a run

A run leaves a trace of events.  Each event has a label, which is its level for an ordinary
event, a message, and fields; what the fields hold is part of the event itself.
-/

namespace MetricsScript
namespace Run

/-- Something that happened during a run. -/
inductive Event where
  | runStarted (commands : Nat) (backend : String) (continueOnError : Bool)
  /-- A command has parts that its arguments leave out. -/
  | partsIgnored (command : String) (discarded : List String)
  /-- A span is opened for a command. -/
  | commandOpened (command : String)
  | commandStarted (arguments : List String)
  /-- The span of a command is given the exit code. -/
  | codeRecorded (code : Int32)
  | commandExited (code : Int32)
  | failurePassedOver (command : String) (code : Int32)
  | failureHalted (command : String) (code : Int32)
  | launchRefused (command : String) (cause : SystemError)
  | runCompleted (records : Nat)
deriving DecidableEq, Repr

namespace Event

/-- The level of an event, or what else it is. -/
def label : Event → String
  | .runStarted .. | .runCompleted .. => "INFO"
  | .partsIgnored .. | .commandStarted .. | .commandExited .. => "DEBUG"
  | .failurePassedOver .. => "WARN"
  | .failureHalted .. | .launchRefused .. => "ERROR"
  | .commandOpened .. => "SPAN"
  | .codeRecorded .. => "RECORD"

/-- What an event says. -/
def message : Event → String
  | .runStarted .. => "starting run"
  | .partsIgnored .. => "ignoring non-literal tokens"
  | .commandOpened .. => "gms.cmd"
  | .commandStarted .. => "executing command"
  | .codeRecorded .. => ""
  | .commandExited .. => "exit code"
  | .failurePassedOver .. => "command failed, continuing"
  | .failureHalted .. => "command failed, halting run"
  | .launchRefused .. => "failed to launch command"
  | .runCompleted .. => "run completed"

/-- The written form of a field. -/
def field (name value : String) : String :=
  name ++ "=" ++ value

/-- The fields of an event, as they are written. -/
def fields : Event → List String
  | .runStarted commands backend continueOnError =>
      [field "commands" (toString commands), field "backend" backend,
        field "continue_on_error" (if continueOnError then "true" else "false")]
  | .partsIgnored command discarded =>
      [field "command" command, field "dropped" (Text.quotedList discarded)]
  | .commandOpened command => [field "command" command]
  | .commandStarted arguments => [field "args" (Text.quotedList arguments)]
  | .codeRecorded code => [field "exit_code" (toString code.toInt)]
  | .commandExited code => [field "code" (toString code.toInt)]
  | .failurePassedOver command code | .failureHalted command code =>
      [field "command" command, field "code" (toString code.toInt)]
  | .launchRefused command cause =>
      [field "command" command, field "error" cause.message]
  | .runCompleted records => [field "records" (toString records)]

end Event
end Run
end MetricsScript
