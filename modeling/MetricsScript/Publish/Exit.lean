import MetricsScript.Run.Failure

/-!
# Exit of a failed program

An error may be wrapped in contexts that say what was being done.  Only the outermost
message is reported, and every failure has the same exit code.
-/

namespace MetricsScript
namespace Publish

/-- An error in words, in the contexts it was wrapped in, the innermost first. -/
structure WrappedError where
  message : String
  contexts : List String
deriving DecidableEq, Repr

/-- The error of a run, in no context. -/
def WrappedError.ofFailure (failure : Run.Failure) : WrappedError :=
  ⟨failure.message, []⟩

/-- Wraps an error in one more context. -/
def WrappedError.wrap (error : WrappedError) (context : String) : WrappedError :=
  { error with contexts := error.contexts ++ [context] }

/-- The message of the outermost context, or of the error itself if there is none. -/
def WrappedError.outermost (error : WrappedError) : String :=
  error.contexts.getLast?.getD error.message

/-- How a failed program exits. -/
structure Exit where
  code : Int32
  message : String
deriving DecidableEq, Repr

/-- The exit code of every failed run. -/
def failureCode : Int32 := 1

/-- The exit after an error. -/
def Exit.ofError (error : WrappedError) : Exit :=
  ⟨failureCode, error.outermost⟩

end Publish
end MetricsScript
