import MetricsScript.Command.Arguments
import MetricsScript.Run.Event
import MetricsScript.Run.Plan

/-!
# Running a script

A run walks its plan one command at a time.  The next command is started only when the one
before has ended.  A command that cannot be launched halts the run; so does one that fails,
unless failures are to be passed over.  The report of a run tells the records, the
invocations made, the trace and how the run ended.
-/

namespace MetricsScript
namespace Run

/-- How a run ends. -/
inductive Ending where
  /-- Every planned command ran. -/
  | completed
  /-- The run stopped early, and no further command is started. -/
  | halted (failure : Failure)
  /-- A command never ends, and neither does the run. -/
  | hung
deriving DecidableEq, Repr

/-- Everything that a run, or a part of one, produced. -/
structure Report where
  records : List Record
  calls : List Tool.Invocation
  events : List Event
  ending : Ending
deriving DecidableEq, Repr

/-- The record of a command that gave an output. -/
def recordOf (command : String) (output : Tool.Output) : Record :=
  ⟨command, output.code, output.stdout, output.stderr⟩

/-- The events that come before a command is run. -/
def openingEvents (command : String) : List Event :=
  let discarded := Command.discarded command
  (if discarded.isEmpty then [] else [Event.partsIgnored command discarded]) ++
    [.commandOpened command, .commandStarted (Command.arguments command)]

/-- The events that follow the exit of a command. -/
def exitEvents (code : Int32) : List Event :=
  [.codeRecorded code, .commandExited code]

/-- The report of one command, after which the run goes on if it is `completed`. -/
def step
    (config : Configuration) (runner : Tool.Runner) (history : List Tool.Invocation)
    (command : String) : Report :=
  let call := config.invocation (Command.arguments command)
  let before := openingEvents command
  match runner (history ++ [call]) with
  | .hung => ⟨[], [call], before, .hung⟩
  | .failed cause =>
      ⟨[], [call], before ++ [.launchRefused command cause],
        .halted (.launchFailed command config.program cause)⟩
  | .exited output =>
      let records := [recordOf command output]
      let events := before ++ exitEvents output.code
      if output.code = 0 then ⟨records, [call], events, .completed⟩
      else if config.continueOnError then
        ⟨records, [call], events ++ [.failurePassedOver command output.code], .completed⟩
      else
        ⟨records, [call], events ++ [.failureHalted command output.code],
          .halted (.commandFailed command output.code)⟩

/-- The report of one part of a run followed by the next part. -/
def Report.append (first next : Report) : Report :=
  ⟨first.records ++ next.records, first.calls ++ next.calls, first.events ++ next.events,
    next.ending⟩

/-- Runs the commands of a plan in order.  The history holds the invocations that the runner
was given before. -/
def walk (config : Configuration) (runner : Tool.Runner) :
    List Tool.Invocation → List String → Report
  | _, [] => ⟨[], [], [], .completed⟩
  | history, command :: rest =>
      let first := step config runner history command
      match first.ending with
      | .completed => first.append (walk config runner (history ++ first.calls) rest)
      | _ => first

/-- The report with the events that open and close the trace of a whole run. -/
def Report.framed (report : Report) (config : Configuration) (commands : Nat) : Report :=
  { report with
    events :=
      .runStarted commands config.backend config.continueOnError :: report.events ++
        (if report.ending = .completed then [.runCompleted report.records.length] else []) }

/-- Runs a script. -/
def run
    (config : Configuration) (runner : Tool.Runner) (history : List Tool.Invocation)
    (script : String) (flags : Flags) : Report :=
  let commands := plan script flags
  (walk config runner history commands).framed config commands.length

/-- What a run publishes: its records if it completed, or else the failure that halted it.  A
run that hangs comes to nothing. -/
def Report.result? (report : Report) : Option (Except Failure (List Record)) :=
  match report.ending with
  | .completed => some (.ok report.records)
  | .halted failure => some (.error failure)
  | .hung => none

end Run
end MetricsScript
