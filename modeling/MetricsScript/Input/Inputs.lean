import MetricsScript.Host.Files
import MetricsScript.Input.Boolean
import MetricsScript.Input.CommandLine
import MetricsScript.Run.Configuration
import MetricsScript.Text.Utf8

/-!
# The inputs of a run

The options that were given are checked and completed, which makes them the inputs of a run.
The first fault is reported, the script coming first.
-/

namespace MetricsScript
namespace Input

/-- Everything that a run is told from outside. -/
structure Inputs where
  script : String
  flags : Run.Flags
  configuration : Run.Configuration
  format : Format
deriving DecidableEq, Repr

/-- The text that bytes read from `path` make up. -/
def textFrom (path : String) (bytes : Except SystemError (List UInt8)) :
    Except InputError String :=
  match bytes with
  | .error cause => .error (.unreadable path cause)
  | .ok bytes =>
      match Text.Utf8.decode? bytes with
      | some text => .ok text
      | none => .error (.unreadable path .notText)

/-- The script, from a file if one is named, from standard input if the script is a hyphen,
and else as it was given. -/
def scriptSource (given : Given) (stdin : List UInt8) (files : Host.Files) :
    Except InputError String :=
  match given.scriptFile, given.script with
  | some path, _ => textFrom path (files.read path)
  | none, some "-" => textFrom "stdin" (.ok stdin)
  | none, script => .ok (script.getD "")

/-- The script, which must not be blank. -/
def requiredScript (given : Given) (stdin : List UInt8) (files : Host.Files) :
    Except InputError String := do
  let script ← scriptSource given stdin files
  if Text.isAllBlank script then .error (.required "script") else .ok script

/-- Checks and completes the options that were given. -/
def inputs (given : Given) (stdin : List UInt8) (files : Host.Files) :
    Except InputError Inputs := do
  let script ← requiredScript given stdin files
  let pull ← boolean "pull" given.pull
  let push ← boolean "push" given.push
  let sync ← boolean "sync" given.sync
  let continueOnError ← boolean "continueOnError" given.continueOnError
  let standard : Run.Configuration := {}
  return {
    script
    flags := { pull, push, sync }
    configuration :=
      { program := given.program.getD standard.program
        backend := given.backend.getD standard.backend
        verbosity := given.verbosity.getD standard.verbosity
        continueOnError
        echo := given.echo.getD false }
    format := given.outputFormat.getD .json }

end Input
end MetricsScript
