import MetricsScript.Host.Shell.State
import MetricsScript.Host.Utilities.Sleep

/-!
# Jobs of a shell

A job runs beside the shell that started it, from the moment at which it was started.  It is
run to its end at once, and the moments that its output bears put the output into its place.

The shell only serves to run tools on a machine; no theorem is about it.
-/

namespace MetricsScript
namespace Host
namespace Shell

/-- The time that a shell within the shell takes to start, in microseconds. -/
def shellDelay : Nat := 100

/-- The time that a program takes to start, in microseconds. -/
def programDelay : Nat := 1000

/-- Lets time pass up to a moment.  If the shell is to be stopped by then, it is. -/
def State.advance (s : State) (moment : Nat) : State :=
  let s := { s with clock := max s.clock moment }
  if !s.within && s.stopping.any (· ≤ s.clock) then { s with leaving := some .killed } else s

/-- The moment at which the state and all of its jobs have ended. -/
def State.lastEnding (s : State) : Nat :=
  s.jobs.foldl (fun moment job => max moment job.ending) s.clock

/-- The state with which a shell within the shell begins. -/
def State.inside (s : State) : State :=
  { s with
    within := true
    clock := s.clock + shellDelay
    jobs := []
    leaving := none
    traps := s.traps.filter fun entry => entry.1 ≠ 0 && entry.2.isEmpty
    outerTraps := if s.within then s.outerTraps else s.traps }

/-- What a shell within the shell leaves behind when it has ended: what it wrote, what it left
to read, and its status. -/
def State.afterInside (before inner : State) : State :=
  let after :=
    { before with
      stdin := inner.stdin
      files := { inner.files with working := before.files.working }
      buffers := inner.buffers.take before.buffers.length
      status := inner.status
      nextNumber := inner.nextNumber
      pending := inner.pending
      stopping := inner.stopping }
  after.advance inner.clock

/-- Does something with its output caught in a buffer of its own, until nobody is left who
could write to it. -/
def caught (work : State → State) (s : State) : List UInt8 × State :=
  let index := s.buffers.length
  let inner :=
    work ({ s.inside with buffers := s.buffers ++ [[]] }.lead 1 (some (.buffer index)))
  (inner.written index, s.afterInside { inner with clock := inner.lastEnding })

/-- Does two things, the second reading what the first writes. -/
def piped (first second : State → State) (s : State) : State :=
  let (bytes, between) := caught first s
  { s.afterInside (second { between.inside with stdin := bytes }) with stdin := between.stdin }

/-- Starts work as a job. -/
def background (work : State → State) (s : State) : State :=
  let number := s.nextNumber
  let inner := work { s.inside with number := number, nextNumber := number + 1, stdin := [] }
  { s with
    files := { inner.files with working := s.files.working }
    buffers := inner.buffers
    status := 0
    nextNumber := inner.nextNumber
    pending := inner.pending
    stopping := inner.stopping
    jobs := ⟨number, inner.clock, inner.status, none⟩ :: s.jobs }

/-- Stops a job, which writes nothing from now on. -/
def State.stopJob (s : State) (number signal : Nat) : State :=
  { s with
    jobs := s.jobs.map fun job =>
      if job.number = number then
        { job with ending := s.clock, status := 128 + signal, signal := some signal }
      else job
    buffers := s.buffers.map fun outputs =>
      outputs.filter fun output => !(output.writer = number && s.clock < output.moment) }

/-- Whether a signal stops a program that does nothing about it. -/
def stops (signal : Nat) : Bool :=
  signal != 0 && !([17, 18, 19, 20, 21, 22, 23, 28].contains signal)

/-- What is run for a signal, if it does not stop the shell itself.  Nothing saves it from the
ninth signal. -/
def State.trap? (s : State) (signal : Nat) : Option String :=
  if signal = 9 then none else (if s.within then s.outerTraps else s.traps).lookup signal

/-- Stops the shell itself, unless something is to be run for the signal.  A shell within the
shell goes on. -/
def State.stop (s : State) (signal : Nat) : State :=
  match s.trap? signal with
  | some action => if action.isEmpty then s else { s with pending := s.pending ++ [signal] }
  | none =>
      if s.within then { s with stopping := some (min (s.stopping.getD s.clock) s.clock) }
      else { s with status := 128 + signal, leaving := some .killed }

/-- Sends a signal to a number, if that is the number of the shell or of a job that runs. -/
def State.deliver? (s : State) (signal : Nat) (target : String) : Option State :=
  if target = toString s.own then some (if stops signal then s.stop signal else s)
  else
    (s.jobs.find? fun job => toString job.number = target && s.clock < job.ending).map
      fun job => if stops signal then s.stopJob job.number signal else s

/-- What is said of a job that a signal stopped. -/
def signalText? : Nat → Option String
  | 1 => some "Hangup"
  | 3 => some "Quit"
  | 6 => some "Aborted"
  | 9 => some "Killed"
  | 10 => some "User defined signal 1"
  | 11 => some "Segmentation fault"
  | 12 => some "User defined signal 2"
  | 14 => some "Alarm clock"
  | 15 => some "Terminated"
  | _ => none

/-- Waits for a job to end and takes over its status. -/
def State.waitForJob (s : State) (job : Job) : State :=
  let s := { s.advance job.ending with status := job.status }
  match job.signal.bind signalText? with
  | some text => (s.write 2 (bytesOf (text ++ "\n"))).1
  | none => s

/-- Waits for the job of a number. -/
def State.waitForNumber (s : State) (target : String) : State :=
  match Text.numeral? target.toList with
  | none => s.complain ("wait: Illegal number: " ++ target) 2
  | some number =>
      match s.jobs.find? fun job => job.number = number with
      | some job => s.waitForJob job
      | none => { s with status := 127 }

/-- Waits for the jobs of some numbers, or for all jobs. -/
def State.wait (s : State) (targets : List String) : State :=
  if targets.isEmpty then { s.advance s.lastEnding with status := 0 }
  else targets.foldl State.waitForNumber s

end Shell
end Host
end MetricsScript
