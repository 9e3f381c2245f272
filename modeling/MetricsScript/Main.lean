import MetricsScript.Program

/-!
# The command line

The outermost layer: it gathers what the program is started with, and prints what the
program leaves behind.  No program is started from here; every invocation is refused as
unsupported.
-/

namespace MetricsScript
namespace CommandLine

/-- The variables that the program reads. -/
def variableNames : List String :=
  Input.Setting.all.filterMap Input.Setting.variableName ++ [Program.outputVariable]

/-- The variables that are set. -/
def readVariables : IO Input.Environment :=
  variableNames.filterMapM fun name => do
    return (← IO.getEnv name).map fun value => (name, value)

/-- All bytes of a stream. -/
partial def readAll (stream : IO.FS.Stream) (read : ByteArray) : IO ByteArray := do
  let more ← stream.read 8192
  if more.isEmpty then return read else readAll stream (read ++ more)

/-- Puts a file that can be read among the files, with the directories that lead to it. -/
def putFile (files : Host.Files) (path : String) : IO Host.Files := do
  let names := (Host.Path.parse path).steps.filterMap fun step =>
    match step with
    | .enter name => some name
    | _ => none
  let files := (List.range names.length).foldl
    (fun files n => files.put (names.take n) .directory) files
  try
    let bytes ← IO.FS.readBinFile path
    return files.put names (.file bytes.toList)
  catch _ => return files

/-- The files that the options name. -/
def gatherFiles (arguments : List String) (environment : Input.Environment) :
    IO Host.Files := do
  let files : Host.Files := { nodes := [], working := [] }
  let files ← match (Program.outputPath? environment) with
    | some path => putFile files path
    | none => pure files
  match Input.readOptions arguments environment with
  | .ok given =>
      match given.scriptFile with
      | some path => putFile files path
      | none => return files
  | .error _ => return files

/-- Refuses every invocation. -/
def refuse : Tool.Runner := fun _ =>
  .failed (.ofKind .unsupported)

/-- A hexadecimal number of so many digits, drawn at random. -/
def drawDigits (count : Nat) : IO String := do
  let digits ← (List.range count).mapM fun _ => do
    return Nat.digitChar (← IO.rand 0 15)
  return String.ofList digits

/-- A delimiter drawn at random. -/
def drawDelimiter : IO String := do
  let variant := Nat.digitChar (8 + (← IO.rand 0 3))
  let groups := [← drawDigits 8, ← drawDigits 4, "4" ++ (← drawDigits 3),
    variant.toString ++ (← drawDigits 3), ← drawDigits 12]
  return "ghadelimiter_" ++ "-".intercalate groups

/-- Writes the output file back. -/
def writeBack (before after : Host.Files) (environment : Input.Environment) : IO Unit := do
  match Program.outputPath? environment with
  | none => return
  | some path =>
      match before.read path, after.read path with
      | old, .ok bytes =>
          if old.toOption ≠ some bytes then IO.FS.writeBinFile path ⟨bytes.toArray⟩
      | _, .error _ => return

/-- Runs the program with arguments. -/
def run (arguments : List String) : IO UInt32 := do
  let environment ← readVariables
  let files ← gatherFiles arguments environment
  let stdin ← match Input.readOptions arguments environment with
    | .ok { script := some "-", scriptFile := none, .. } => readAll (← IO.getStdin) .empty
    | _ => pure .empty
  let start : Program.Start :=
    ⟨arguments, environment, stdin.toList, files, ← drawDelimiter⟩
  match Program.run start refuse with
  | none => return 1
  | some outcome =>
      IO.print outcome.stdout
      writeBack files outcome.files environment
      return UInt32.ofNat outcome.code.toInt.toNat

end CommandLine
end MetricsScript

/-- Runs the program. -/
def main (arguments : List String) : IO UInt32 :=
  MetricsScript.CommandLine.run arguments
