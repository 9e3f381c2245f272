import MetricsScript.Text.Blank

/-!
# Which events are shown

Directives choose the events that are shown.  They are given in the environment; failing
that, a workflow that is being debugged shows more than usual.
-/

namespace MetricsScript

/-- The directives for the value given, if any, and the value of the variable that marks a
workflow as being debugged. -/
def directives (given debugging : Option String) : String :=
  match (given.map Text.trim).filter fun text => !text.isEmpty with
  | some text => text
  | none => if debugging = some "1" then "debug" else "info"

end MetricsScript
