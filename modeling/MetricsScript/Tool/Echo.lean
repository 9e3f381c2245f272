/-!
# Showing output

While a program works, its output can be copied to a writer.  A writer may take fewer bytes
than it is offered, and it may fail.  All of a text is offered until it has been taken or
the writer fails; a writer that takes nothing has failed.
-/

namespace MetricsScript
namespace Tool

/-- A writer decides on each offer, the offers being counted from one. -/
structure Writer where
  /-- How many of the offered bytes are taken; nothing if the writer fails. -/
  accept : (call : Nat) → (offered : List UInt8) → Option Nat
  /-- Whether what was taken can be flushed. -/
  flushes : Bool

/-- A writer that takes at most `most` bytes at a time, fails from offer `failing` on, and
flushes or does not. -/
def Writer.limited (most failing : Option Nat) (flushes : Bool) : Writer where
  accept call offered :=
    if failing.any fun first => first ≤ call then none
    else some (match most with
      | some n => min n offered.length
      | none => offered.length)
  flushes := flushes

/-- The writer that takes everything. -/
def Writer.unlimited : Writer := .limited none none true

/-- The writer that takes nothing. -/
def Writer.closed : Writer := .limited none (some 0) false

/-- A writer in use. -/
structure Sink where
  writer : Writer
  /-- The bytes taken so far. -/
  accepted : List UInt8
  /-- The number of offers made, refused ones included. -/
  writes : Nat
  /-- The number of times that the writer was told to flush. -/
  flushes : Nat

/-- A writer before its first use. -/
def Sink.ofWriter (writer : Writer) : Sink :=
  ⟨writer, [], 0, 0⟩

/-- What came of offering a text to a writer. -/
structure Offered where
  /-- The bytes taken. -/
  taken : List UInt8
  /-- The number of offers made. -/
  calls : Nat
  /-- Whether everything was taken. -/
  complete : Bool
deriving DecidableEq, Repr

/-- Offers bytes until all are taken or the writer fails.  `calls` offers were made before. -/
def Writer.offerAll (w : Writer) (calls : Nat) (bytes : List UInt8) : Offered :=
  match bytes with
  | [] => ⟨[], 0, true⟩
  | byte :: more =>
      match w.accept (calls + 1) (byte :: more) with
      | none | some 0 => ⟨[], 1, false⟩
      | some (n + 1) =>
          let rest := w.offerAll (calls + 1) (more.drop n)
          ⟨byte :: more.take n ++ rest.taken, rest.calls + 1, rest.complete⟩
termination_by bytes.length
decreasing_by simp only [List.length_drop, List.length_cons]; omega

theorem Writer.offerAll_of_refused {w : Writer} {calls : Nat} {byte : UInt8} {more : List UInt8}
    (h : w.accept (calls + 1) (byte :: more) = none ∨
      w.accept (calls + 1) (byte :: more) = some 0) :
    w.offerAll calls (byte :: more) = ⟨[], 1, false⟩ := by
  rw [Writer.offerAll]
  obtain haccept | haccept := h
  · simp only [haccept]
  · simp only [haccept]

theorem Writer.offerAll_of_taken {w : Writer} {calls count : Nat} {byte : UInt8}
    {more : List UInt8} (h : w.accept (calls + 1) (byte :: more) = some (count + 1)) :
    w.offerAll calls (byte :: more) =
      ⟨byte :: more.take count ++ (w.offerAll (calls + 1) (more.drop count)).taken,
        (w.offerAll (calls + 1) (more.drop count)).calls + 1,
        (w.offerAll (calls + 1) (more.drop count)).complete⟩ := by
  rw [Writer.offerAll]
  simp only [h]

/-- The writer after an offer. -/
def Sink.after (s : Sink) (o : Offered) : Sink :=
  { s with accepted := s.accepted ++ o.taken, writes := s.writes + o.calls }

/-- The writer after it was told to flush.  Nothing depends on whether it could. -/
def Sink.flush (s : Sink) : Sink :=
  { s with flushes := s.flushes + 1 }

end Tool
end MetricsScript
