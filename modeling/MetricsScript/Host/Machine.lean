import MetricsScript.Host.Shell.Run

/-!
# Starting programs

A machine starts a program by its path, or by its name along the search path.  The tool that
scripts are written for says what it was told to say for its first argument; the other
programs are those that a host has anyway.

A machine is one runner among others.  Theorems are about every runner; none is about the
programs that a machine starts.
-/

namespace MetricsScript
namespace Host

/-- A machine that programs are started on. -/
structure Machine where
  files : Files
  /-- The environment that programs inherit. -/
  environment : List (String × String)
  /-- What the tool does, by its first argument. -/
  tool : List (String × Ran)
deriving DecidableEq, Repr

/-- What a program that does nothing leaves behind. -/
def Ran.nothing : Ran := ⟨[], [], .code 0⟩

/-- What work leaves behind. -/
def Work.ran (w : Work) : Ran :=
  ⟨w.stdout, w.stderr, .code (Int32.ofNat w.code)⟩

/-- Whether a text holds a NUL, which no program can be given. -/
def holdsNul (s : String) : Bool :=
  s.toList.contains '\x00'

/-- Whether something in an invocation holds a NUL. -/
def invocationHoldsNul (call : Tool.Invocation) : Bool :=
  holdsNul call.program || call.arguments.any holdsNul ||
    call.environment.any fun entry => holdsNul entry.1 || holdsNul entry.2

/-- The value of a variable.  Of two settings of one variable the later counts. -/
def lastValue (environment : List (String × String)) (name : String) : String :=
  (environment.reverse.lookup name).getD ""

/-- Finds a program along the search path of an environment. -/
def findProgram (files : Files) (environment : List (String × String)) (name : String) :
    Except SystemError Utility :=
  (files.findProgram (lastValue environment "PATH") name).map Program.utility

namespace Machine

/-- Runs a program that was found.  Standard input is empty. -/
def perform (m : Machine) (environment : List (String × String)) (arguments : List String) :
    Utility → Ran
  | .tool => (m.tool.lookup (arguments.headD "")).getD .nothing
  | .shell => Shell.start m.files environment.reverse [] arguments
  | .printf => (printf .program arguments).ran
  | .echo => (programEcho arguments).ran
  | .test => (testProgram m.files arguments).ran
  | .cat => (cat m.files [] arguments).work.ran
  | .head => (head m.files [] arguments).work.ran
  | .tr => (tr [] arguments).ran
  | .sleep => (sleep arguments).1.ran
  | .sequence => (printSequence arguments).ran
  | .repetition => (printRepeatedly arguments).ran
  | .succeed => .nothing
  | .fail => ⟨[], [], .code 1⟩

/-- Starts a program. -/
def start (m : Machine) (call : Tool.Invocation) : Except SystemError Ran :=
  if invocationHoldsNul call then .error .nulInArgument
  else
    let environment := m.environment ++ call.environment
    (findProgram m.files environment call.program).map
      (m.perform environment call.arguments)

/-- Whether an invocation starts the tool. -/
def startsTool (m : Machine) (call : Tool.Invocation) : Bool :=
  !invocationHoldsNul call &&
    (match findProgram m.files (m.environment ++ call.environment) call.program with
      | .ok .tool => true
      | _ => false)

/-- What arrives from a program: all of its output, the end of both streams, its exit. -/
def arrivals (ran : Ran) : List Tool.Arrival :=
  ((Tool.bufferedPieces ran.stdout).filter fun piece => !piece.isEmpty).map
      (fun piece => .stdout (.data piece)) ++
    ((Tool.bufferedPieces ran.stderr).filter fun piece => !piece.isEmpty).map
      (fun piece => .stderr (.data piece)) ++
    [.stdout (.data []), .stderr (.data []), .exit ran.status]

/-- Runs an invocation to its end and collects what arrives.  The sink takes what is shown
on the way. -/
def collect (m : Machine) (writer : Tool.Writer) (call : Tool.Invocation) :
    Except SystemError Tool.Collector := do
  let ran ← m.start call
  Tool.collect call.echo (.ofWriter writer) (arrivals ran)

/-- What becomes of an invocation on the machine. -/
def respond (m : Machine) (writer : Tool.Writer) (call : Tool.Invocation) : Tool.Response :=
  match m.collect writer call with
  | .error cause => .failed cause
  | .ok collector =>
      match collector.output? with
      | some output => .exited output
      | none => .hung

/-- The bytes that an invocation shows. -/
def shown (m : Machine) (writer : Tool.Writer) (call : Tool.Invocation) : List UInt8 :=
  match m.collect writer call with
  | .error _ => []
  | .ok collector => collector.sink.accepted

/-- The machine as a runner. -/
def runner (m : Machine) (writer : Tool.Writer) : Tool.Runner := fun calls =>
  match calls.getLast? with
  | some call => m.respond writer call
  | none => .exited .silent

end Machine
end Host
end MetricsScript
