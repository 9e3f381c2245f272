import MetricsScript.SystemError
import MetricsScript.Text.Blank

/-!
# Boolean inputs

An input is a text.  As a boolean it has one of six spellings, blank characters around it
not counting; an input that is absent or blank is false.  The errors of the inputs are
gathered here, since a wrong spelling is one of them.
-/

namespace MetricsScript
namespace Input

/-- What is wrong with the inputs of a run. -/
inductive InputError where
  /-- An input that must be given is absent or blank. -/
  | required (name : String)
  /-- An input is none of the spellings of a boolean. -/
  | notBoolean (name value : String)
  /-- The script could not be read from where it is said to be. -/
  | unreadable (path : String) (cause : SystemError)
deriving DecidableEq, Repr

/-- The error in words. -/
def InputError.message : InputError → String
  | .required name => "Input required and not supplied: " ++ name
  | .notBoolean name _ =>
      "Input does not meet YAML 1.2 \"Core Schema\" specification: " ++ name ++
        "\nSupport boolean input list: " ++
        "\x60true | True | TRUE | false | False | FALSE\x60"
  | .unreadable path cause =>
      "failed to read script from " ++ path ++ ": " ++ cause.message

/-- The spellings of true. -/
def trueSpellings : List String := ["true", "True", "TRUE"]

/-- The spellings of false, nothing at all among them. -/
def falseSpellings : List String := ["", "false", "False", "FALSE"]

/-- The boolean that an input spells. -/
def boolean (name : String) (value : Option String) : Except InputError Bool :=
  let text := Text.trim (value.getD "")
  if text ∈ falseSpellings then .ok false
  else if text ∈ trueSpellings then .ok true
  else .error (.notBoolean name text)

end Input
end MetricsScript
