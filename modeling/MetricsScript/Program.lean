import MetricsScript.Input.Inputs
import MetricsScript.Publish.Annotation
import MetricsScript.Publish.Exit
import MetricsScript.Publish.Json
import MetricsScript.Publish.OutputFile
import MetricsScript.Publish.Summary
import MetricsScript.Run.Report

/-!
# The program

The program reads its inputs, runs the script, and publishes the records: on standard
output, and in the output file of the workflow if there is one.  Whatever goes wrong is
reported by one error annotation on standard output, and the program fails.
-/

namespace MetricsScript
namespace Program

/-- What the program is started with. -/
structure Start where
  arguments : List String
  environment : Input.Environment
  stdin : List UInt8
  files : Host.Files
  /-- The delimiter drawn for the entry in the output file. -/
  delimiter : String

/-- What the program leaves behind.  Standard error, which takes the log and what is shown of
the output of the tool, is left out. -/
structure Outcome where
  code : Int32
  stdout : String
  /-- The invocations of the tool, in order. -/
  calls : List Tool.Invocation
  files : Host.Files
deriving DecidableEq, Repr

/-- The text that tells the version. -/
def versionText : String := "gms 0.2.0\n"

/-- One line of help for an option. -/
def helpLine (setting : Input.Setting) : String :=
  "  --" ++ setting.name ++
    (match setting.arity with
      | .switch => ""
      | .one => " <VALUE>"
      | .optional => " [<BOOL>]") ++
    (match setting.variableName with
      | some name => " [env: " ++ name ++ "]"
      | none => "") ++ "\n"

/-- The text that tells the options. -/
def helpText : String :=
  "Run a git-metrics script one command at a time\n\nUsage: gms [OPTIONS]\n\nOptions:\n" ++
    String.join (Input.Setting.all.map helpLine) ++ "  -h, --help\n  -V, --version\n"

/-- What is printed on standard output when a command line is not run. -/
def refusalText : Input.Refusal → String
  | .help => helpText
  | .version => versionText
  | _ => ""

/-- The variable that names the output file. -/
def outputVariable : String := "GITHUB_OUTPUT"

/-- The name of the published output. -/
def resultName : String := "result"

/-- The path of the output file; there is none if the variable is unset or empty. -/
def outputPath? (environment : Input.Environment) : Option String :=
  (Input.valueOf? environment outputVariable).filter fun path => !path.isEmpty

/-- The outcome of a failure.  `printed` stands on standard output already. -/
def failed
    (message printed : String) (calls : List Tool.Invocation) (files : Host.Files) :
    Outcome :=
  let exit := Publish.Exit.ofError ⟨message, []⟩
  ⟨exit.code, printed ++ Publish.errorAnnotation exit.message ++ "\n", calls, files⟩

/-- What is printed of the records. -/
def printed (format : Input.Format) (records : List Run.Record) : String :=
  match format with
  | .json => Publish.json records ++ "\n"
  | .text => Publish.summary records

/-- What becomes of the entry for the output file.  If there is no such file, nothing does. -/
def addResult (start : Start) (records : List Run.Record) : Publish.Addition :=
  match outputPath? start.environment with
  | none => { files := start.files }
  | some path =>
      Publish.addOutput start.files path resultName (Publish.json records) start.delimiter

/-- Publishes the records of a run.  Standard output comes first, so it holds the result
even if the output file cannot be written. -/
def publish
    (start : Start) (format : Input.Format) (records : List Run.Record)
    (calls : List Tool.Invocation) : Outcome :=
  let added := addResult start records
  let text := printed format records ++ added.printed
  match added.error? with
  | none => ⟨0, text, calls, added.files⟩
  | some error => failed error.message text calls added.files

/-- Runs a script with checked inputs. -/
def runInputs (start : Start) (runner : Tool.Runner) (inputs : Input.Inputs) :
    Option Outcome :=
  let report := Run.run inputs.configuration runner [] inputs.script inputs.flags
  report.result?.map fun result =>
    match result with
    | .ok records => publish start inputs.format records report.calls
    | .error failure => failed failure.message "" report.calls start.files

/-- Runs the program.  There is no outcome if a command never ends. -/
def run (start : Start) (runner : Tool.Runner) : Option Outcome :=
  match Input.readOptions start.arguments start.environment with
  | .error refusal => some ⟨refusal.exitCode, refusalText refusal, [], start.files⟩
  | .ok given =>
      match Input.inputs given start.stdin start.files with
      | .error error => some (failed error.message "" [] start.files)
      | .ok inputs => runInputs start runner inputs

end Program
end MetricsScript
