import MetricsScript.SystemError

/-!
# Invocations of the tool

A command of a script is run by starting a program with arguments.  What comes back is an
output, or an error if the program could not be started or read; a program that never ends
gives nothing back at all.
-/

namespace MetricsScript
namespace Tool

/-- One start of a program. -/
structure Invocation where
  program : String
  arguments : List String
  /-- The variables added to the inherited environment, in order. -/
  environment : List (String × String)
  /-- The output is to be shown while the program works. -/
  echo : Bool
deriving DecidableEq, Repr

/-- The first argument, which names the tool's own command; empty if there is none. -/
def Invocation.subcommand (i : Invocation) : String :=
  i.arguments.headD ""

/-- What a program leaves behind when it has ended. -/
structure Output where
  code : Int32
  stdout : String
  stderr : String
deriving DecidableEq, Repr

/-- The output of a program that succeeds and prints nothing. -/
def Output.silent : Output :=
  ⟨0, "", ""⟩

/-- What becomes of an invocation. -/
inductive Response where
  /-- The program ended, with success or without. -/
  | exited (output : Output)
  /-- The program could not be started, or its output could not be read. -/
  | failed (error : SystemError)
  /-- The program never ends. -/
  | hung
deriving DecidableEq, Repr

/-- A runner answers the last of the invocations that it was given; the earlier ones may
have changed what it says. -/
abbrev Runner := List Invocation → Response

end Tool
end MetricsScript
