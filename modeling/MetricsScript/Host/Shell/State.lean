import MetricsScript.Host.Files
import MetricsScript.Host.Shell.Syntax
import MetricsScript.Host.Utilities.Escape
import MetricsScript.Text.Decimal

/-!
# The state of a shell

A shell holds its variables, where its descriptors lead, and what has been written so far.
Statements may run in the background as jobs, so everything that is written bears the moment
at which it was.

The shell only serves to run tools on a machine; no theorem is about it.
-/

namespace MetricsScript
namespace Host
namespace Shell

/-- Where the bytes written to a descriptor go. -/
inductive Target where
  /-- To one of the buffers of the state. -/
  | buffer (index : Nat)
  | nowhere
  /-- To a device that takes nothing. -/
  | full
  /-- To the end of a file. -/
  | file (location : Location)
deriving DecidableEq, Repr

/-- Why a shell does not go on. -/
inductive Leaving where
  /-- The innermost loops are left, and the last of them may go on with its next turn. -/
  | loops (depth : Nat) (goesOn : Bool)
  | function
  | shell
  /-- A signal stopped the shell. -/
  | killed
deriving DecidableEq, Repr

/-- Bytes that were written. -/
structure Output where
  /-- When they were written, in microseconds. -/
  moment : Nat
  /-- The number of the shell or job that wrote them. -/
  writer : Nat
  bytes : List UInt8
deriving DecidableEq, Repr

/-- A statement in the background. -/
structure Job where
  number : Nat
  /-- The moment at which it ends. -/
  ending : Nat
  status : Nat
  /-- The signal that stopped it, if one did. -/
  signal : Option Nat
deriving DecidableEq, Repr

/-- What a shell can be told to do. -/
structure Options where
  /-- To end when a command fails. -/
  ending : Bool
  /-- To end where a parameter has no value. -/
  strict : Bool
  /-- To show commands before they are run. -/
  tracing : Bool
deriving DecidableEq, Repr

/-- The state of a shell. -/
structure State where
  /-- The name under which the shell speaks. -/
  name : String
  /-- The line of the command at hand. -/
  line : Nat
  /-- The command whose text is being run, with a colon and a blank behind it. -/
  context : String
  options : Options
  parameters : List String
  bindings : List (String × String)
  /-- The variables that programs are given. -/
  exported : List String
  /-- The variables whose values cannot be changed. -/
  fixed : List String
  /-- The values that variables have outside the function at hand. -/
  shadowed : List (String × Option String)
  functions : List (String × Statement)
  /-- What is run for signals, and for zero when the shell ends. -/
  traps : List (Nat × String)
  /-- The traps of the shell itself, as a shell within it sees them. -/
  outerTraps : List (Nat × String)
  /-- The signals that something is still to be run for. -/
  pending : List Nat
  /-- The number of loops around the command at hand. -/
  loops : Nat
  /-- Whether the command at hand belongs to a function. -/
  inFunction : Bool
  status : Nat
  /-- The status of the last substitution in the command at hand. -/
  substitutionStatus : Nat
  stdin : List UInt8
  /-- Where the open descriptors lead. -/
  targets : List (Nat × Target)
  /-- What was written to each buffer, the last first. -/
  buffers : List (List Output)
  leaving : Option Leaving
  files : Files
  /-- The number of the shell. -/
  own : Nat
  /-- The number of the shell or job to which the state belongs. -/
  number : Nat
  /-- Whether the state belongs to a shell within the shell. -/
  within : Bool
  /-- The moment that has been reached, in microseconds. -/
  clock : Nat
  /-- The jobs that were started, the last first. -/
  jobs : List Job
  /-- The number of the next job. -/
  nextNumber : Nat
  /-- The moment at which a signal stops the shell itself. -/
  stopping : Option Nat

namespace State

/-- The bytes of a buffer, in the order of the moments at which they were written. -/
def written (s : State) (index : Nat) : List UInt8 :=
  ((((s.buffers[index]?).getD []).reverse.mergeSort
    fun first second => first.moment ≤ second.moment).flatMap Output.bytes)

/-- Writes to a descriptor.  The answer is whether it could be written to. -/
def write (s : State) (descriptor : Nat) (bytes : List UInt8) : State × Bool :=
  match s.targets.lookup descriptor with
  | some (.buffer index) =>
      (if bytes.isEmpty then s
        else
          { s with
            buffers := s.buffers.modify index fun outputs =>
              ⟨s.clock, s.number, bytes⟩ :: outputs }, true)
  | some (.file location) =>
      let old := match s.files.node? location with
        | some (.file content) => content
        | _ => []
      ({ s with files := s.files.put location (.file (old ++ bytes)) }, true)
  | some .nowhere => (s, true)
  | some .full | none => (s, bytes.isEmpty)

/-- How the shell begins when it says something. -/
def heading (s : State) : String :=
  s.name ++ ": " ++ toString s.line ++ ": "

/-- Complains on the error descriptor and fails. -/
def complain (s : State) (message : String) (status : Nat) : State :=
  { (s.write 2 (bytesOf (s.heading ++ message ++ "\n"))).1 with status := status }

/-- Complains of something that no command of the shell is to blame for. -/
def report (s : State) (message : String) (status : Nat) : State :=
  s.complain (s.context ++ message) status

/-- Complains of something that ends the shell. -/
def fail (s : State) (message : String) : State :=
  { s.report message 2 with leaving := some .shell }

/-- Gives a variable a value. -/
def assign (s : State) (name value : String) : State :=
  if s.fixed.contains name then s.fail (name ++ ": is read only")
  else { s with bindings := (name, value) :: s.bindings.filter fun entry => entry.1 ≠ name }

/-- Takes the value of a variable away. -/
def unset (s : State) (name : String) : State :=
  { s with
    bindings := s.bindings.filter fun entry => entry.1 ≠ name
    exported := s.exported.filter (· ≠ name) }

/-- The characters that part fields. -/
def separators (s : State) : String :=
  (s.bindings.lookup "IFS").getD " \t\n"

/-- The letters of the options that are on. -/
def optionLetters (s : State) : String :=
  (if s.options.strict then "u" else "") ++ (if s.options.tracing then "x" else "") ++
    (if s.options.ending then "e" else "")

/-- The parameters in one text, with the first of the separators between them. -/
def joinedParameters (s : State) : String :=
  ((s.separators.toList.head?.map Char.toString).getD "").intercalate s.parameters

/-- The value of a variable or of a special parameter. -/
def value? (s : State) (name : String) : Option String :=
  match name with
  | "#" => some (toString s.parameters.length)
  | "?" => some (toString s.status)
  | "$" => some (toString s.own)
  | "!" => s.jobs.head?.map fun job => toString job.number
  | "-" => some s.optionLetters
  | "0" => some s.name
  | "@" | "*" => some s.joinedParameters
  | _ =>
      match Text.numeral? name.toList with
      | some n => s.parameters[n - 1]?
      | none => s.bindings.lookup name

/-- The state with a descriptor led elsewhere, or closed. -/
def lead (s : State) (descriptor : Nat) (target : Option Target) : State :=
  let others := s.targets.filter fun entry => entry.1 ≠ descriptor
  match target with
  | some t => { s with targets := (descriptor, t) :: others }
  | none => { s with targets := others }

end State

end Shell
end Host
end MetricsScript
