import MetricsScript.Tool.Invocation

/-!
# A scripted tool

A tool that says what it was told to say.  Its replies are found by the first argument of
an invocation; a command without a reply succeeds silently.  It remembers its invocations.
-/

namespace MetricsScript
namespace Tool

/-- What a scripted tool does for one command. -/
inductive Reply where
  | exit (output : Output)
  | refuse (kind : ErrorKind)
  | hang
deriving DecidableEq, Repr

/-- A scripted tool, with its replies, the newest first, and its past invocations. -/
structure Scripted where
  replies : List (String × Reply)
  calls : List Invocation

namespace Scripted

/-- The tool that has been told nothing and asked nothing. -/
def fresh : Scripted := ⟨[], []⟩

/-- Tells the tool what to do for a command, which replaces what it was told before. -/
def respond (tool : Scripted) (command : String) (reply : Reply) : Scripted :=
  { tool with replies := (command, reply) :: tool.replies }

/-- The reply to a command. -/
def reply (tool : Scripted) (command : String) : Reply :=
  (tool.replies.lookup command).getD (.exit .silent)

/-- What becomes of an invocation. -/
def answer (tool : Scripted) (call : Invocation) : Response :=
  match tool.reply call.subcommand with
  | .exit output => .exited output
  | .refuse kind => .failed ⟨kind, "cannot launch " ++ call.program⟩
  | .hang => .hung

/-- The tool after one more invocation. -/
def record (tool : Scripted) (call : Invocation) : Scripted :=
  { tool with calls := tool.calls ++ [call] }

/-- The commands that the tool was asked for. -/
def subcommands (tool : Scripted) : List String :=
  tool.calls.map Invocation.subcommand

/-- The tool as a runner, whose answers depend on the last invocation alone. -/
def runner (tool : Scripted) : Runner := fun calls =>
  match calls.getLast? with
  | some call => tool.answer call
  | none => .exited .silent

end Scripted
end Tool
end MetricsScript
