import MetricsScript.Host.Utilities.Escape

/-!
# The work of a program

What a program that runs to its end leaves behind: what it printed, what it complained of, and
its exit code.

This only serves to run tools on a machine; no theorem is about it.
-/

namespace MetricsScript
namespace Host

/-- What a program leaves behind. -/
structure Work where
  stdout : List UInt8
  stderr : List UInt8
  code : Nat
deriving DecidableEq, Repr

/-- Work that prints and succeeds. -/
def Work.print (bytes : List UInt8) : Work :=
  ⟨bytes, [], 0⟩

/-- Work that fails with a message. -/
def Work.complain (message : String) (code : Nat) : Work :=
  ⟨[], bytesOf (message ++ "\n"), code⟩

/-- A complaint about how a program was called. -/
def Work.misused (program reason : String) : Work :=
  .complain (program ++ ": " ++ reason ++ "\nTry '" ++ program ++ " --help' for more information.")
    1

end Host
end MetricsScript
