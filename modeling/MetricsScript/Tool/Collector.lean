import MetricsScript.Tool.Drain
import MetricsScript.Tool.Invocation

/-!
# Collecting the output of a program

While a program runs, its two output streams are drained side by side, and its exit is
awaited.  These three go on in whatever order things arrive; the output is complete when
all three are done.  Both streams are shown to the same writer.
-/

namespace MetricsScript
namespace Tool

/-- How a program ended. -/
inductive Status where
  | code (code : Int32)
  /-- The program was stopped by a signal. -/
  | signal
deriving DecidableEq, Repr

/-- The exit code that is reported; a program that was stopped has none of its own. -/
def Status.toCode : Status → Int32
  | .code c => c
  | .signal => -1

/-- Something that arrives from a running program. -/
inductive Arrival where
  | stdout (read : Read)
  | stderr (read : Read)
  | exit (status : Status)
deriving DecidableEq, Repr

/-- A stream, which is open until its end is read. -/
structure Channel where
  drain : Drain
  isOpen : Bool
deriving DecidableEq, Repr

/-- The channel and the writer after a read.  What comes after the end is not read. -/
def Channel.receive (c : Channel) (s : Sink) : Read → Except SystemError (Channel × Sink)
  | .error cause => if c.isOpen then .error cause else .ok (c, s)
  | .data bytes =>
      if !c.isOpen then .ok (c, s)
      else if bytes.isEmpty then .ok (⟨c.drain, false⟩, c.drain.finish s)
      else
        let next := c.drain.take s bytes
        .ok (⟨next.1, true⟩, next.2)

/-- The collection of a program's output. -/
structure Collector where
  stdout : Channel
  stderr : Channel
  status : Option Status
  sink : Sink

namespace Collector

/-- The collection before anything has arrived. -/
def fresh (echo : Bool) (sink : Sink) : Collector :=
  ⟨⟨.fresh echo, true⟩, ⟨.fresh echo, true⟩, none, sink⟩

/-- The collection after one arrival. -/
def receive (c : Collector) : Arrival → Except SystemError Collector
  | .stdout read => do
      let (stdout, sink) ← c.stdout.receive c.sink read
      return { c with stdout, sink }
  | .stderr read => do
      let (stderr, sink) ← c.stderr.receive c.sink read
      return { c with stderr, sink }
  | .exit status => return { c with status := c.status.orElse fun _ => some status }

/-- The output, once both streams have ended and the program has. -/
def output? (c : Collector) : Option Output :=
  if c.stdout.isOpen || c.stderr.isOpen then none
  else c.status.map fun status =>
    ⟨status.toCode, c.stdout.drain.text, c.stderr.drain.text⟩

end Collector

/-- Collects what arrives from a program, in the order of arrival.  The first error ends the
collection. -/
def collect (echo : Bool) (sink : Sink) (arrivals : List Arrival) :
    Except SystemError Collector :=
  arrivals.foldlM Collector.receive (.fresh echo sink)

end Tool
end MetricsScript
