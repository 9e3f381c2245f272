import MetricsScript.SystemError
import MetricsScript.Text.Utf8
import MetricsScript.Tool.Echo

/-!
# Draining a stream

A stream is read to its end.  Every piece is captured and, as long as the writer keeps up,
shown.  A writer that fails is given up, but the capture goes on.  The captured bytes become
text only at the end, so a character that is cut in two by a piece's end survives.
-/

namespace MetricsScript
namespace Tool

/-- What one read of a stream gives.  A read of no bytes is the end of the stream. -/
inductive Read where
  | data (bytes : List UInt8)
  | error (cause : SystemError)
deriving DecidableEq, Repr

/-- The most that one read gives. -/
def bufferSize : Nat := 8192

/-- The pieces of at most `bufferSize` bytes in which bytes that are at hand are read. -/
def bufferedPieces (bytes : List UInt8) : List (List UInt8) :=
  if bytes.length ≤ bufferSize then [bytes]
  else bytes.take bufferSize :: bufferedPieces (bytes.drop bufferSize)
termination_by bytes.length
decreasing_by simp [bufferSize] at *; omega

/-- The reads that a source of bytes answers when it has all of them at hand at once. -/
def Read.buffered : Read → List Read
  | .data bytes => (bufferedPieces bytes).map .data
  | .error cause => [.error cause]

/-- A stream being drained. -/
structure Drain where
  /-- The bytes read so far. -/
  captured : List UInt8
  /-- Whether they are still being shown. -/
  echoing : Bool
deriving DecidableEq, Repr

namespace Drain

/-- The drain of a stream of which nothing has been read. -/
def fresh (echo : Bool) : Drain :=
  ⟨[], echo⟩

/-- The drain, and the writer, after one more piece. -/
def take (d : Drain) (s : Sink) (bytes : List UInt8) : Drain × Sink :=
  let captured := d.captured ++ bytes
  if d.echoing then
    let offered := s.writer.offerAll s.writes bytes
    (⟨captured, offered.complete⟩, s.after offered)
  else (⟨captured, false⟩, s)

/-- The writer after the end of the stream. -/
def finish (d : Drain) (s : Sink) : Sink :=
  if d.echoing then s.flush else s

/-- What was read, as a text. -/
def text (d : Drain) : String :=
  Text.Utf8.decode d.captured

end Drain

/-- What became of a stream. -/
structure Drained where
  /-- The text of the stream, or the error that ended it. -/
  result : Except SystemError String
  /-- The number of bytes that each successful read gave. -/
  reads : List Nat
  /-- The writer as it was left. -/
  sink : Sink

/-- Drains a stream from where it stands.  Past the last read is the end of the stream. -/
def Drain.run (d : Drain) (s : Sink) : List Read → Drained
  | [] => ⟨.ok d.text, [0], d.finish s⟩
  | .error cause :: _ => ⟨.error cause, [], s⟩
  | .data bytes :: rest =>
      if bytes.isEmpty then ⟨.ok d.text, [0], d.finish s⟩
      else
        let next := d.take s bytes
        let drained := next.1.run next.2 rest
        { drained with reads := bytes.length :: drained.reads }

/-- Drains a stream, showing it to a writer if there is one.  Where there is no stream, the
text is empty and the writer is left alone. -/
def drain (reads : Option (List Read)) (writer : Option Writer) : Drained :=
  let sink := Sink.ofWriter (writer.getD .closed)
  match reads with
  | none => ⟨.ok "", [], sink⟩
  | some reads => (Drain.fresh writer.isSome).run sink reads

end Tool
end MetricsScript
