import MetricsScript.Text.Decimal

/-!
# Options

Every input is an option with a long name, and most can be given by a variable of the
environment instead.  This module holds the options themselves: their names, whether they
take a value, and what values they take.
-/

namespace MetricsScript
namespace Input

/-- An option of the program. -/
inductive Setting where
  | script
  | scriptFile
  | backend
  | sync
  | pull
  | push
  | continueOnError
  | program
  | verbosity
  | echo
  | outputFormat
deriving DecidableEq, Repr

/-- Whether an option takes a value. -/
inductive Arity where
  /-- The option stands alone. -/
  | switch
  /-- The option must be followed by a value. -/
  | one
  /-- The option may be followed by a value and says `true` without one. -/
  | optional
deriving DecidableEq, Repr

namespace Setting

/-- The name of the option, which is written after two hyphens. -/
def name : Setting → String
  | .script => "script"
  | .scriptFile => "script-file"
  | .backend => "backend"
  | .sync => "sync"
  | .pull => "pull"
  | .push => "push"
  | .continueOnError => "continue-on-error"
  | .program => "program"
  | .verbosity => "verbosity"
  | .echo => "echo"
  | .outputFormat => "output-format"

/-- The variable that gives the option when the arguments do not. -/
def variableName : Setting → Option String
  | .script => some "INPUT_SCRIPT"
  | .scriptFile => none
  | .backend => some "INPUT_BACKEND"
  | .sync => some "INPUT_SYNC"
  | .pull => some "INPUT_PULL"
  | .push => some "INPUT_PUSH"
  | .continueOnError => some "INPUT_CONTINUEONERROR"
  | .program => some "GMS_PROGRAM"
  | .verbosity => some "GMS_VERBOSITY"
  | .echo => some "GMS_ECHO"
  | .outputFormat => none

def arity : Setting → Arity
  | .sync | .pull | .push | .continueOnError => .optional
  | .echo => .switch
  | .script | .scriptFile | .backend | .program | .verbosity | .outputFormat => .one

/-- Whether the value of the option may begin with a hyphen. -/
def allowsHyphen : Setting → Bool
  | .script => true
  | _ => false

/-- All options, in the order in which they are looked at. -/
def all : List Setting :=
  [.script, .scriptFile, .backend, .sync, .pull, .push, .continueOnError, .program,
    .verbosity, .echo, .outputFormat]

/-- The option of a name. -/
def named? (name : String) : Option Setting :=
  all.find? fun setting => setting.name = name

end Setting

/-- In which form the result is printed. -/
inductive Format where
  | text
  | json
deriving DecidableEq, Repr, Inhabited

/-- Why a command line is not run. -/
inductive Refusal where
  /-- Help was asked for. -/
  | help
  /-- The version was asked for. -/
  | version
  /-- An argument is no option and no option's value. -/
  | unknownArgument
  /-- A value is missing, empty where it must not be, or none of the values allowed. -/
  | invalidValue
  /-- A value is out of its range. -/
  | outOfRange
  /-- An option that takes no value was given one. -/
  | tooManyValues
  /-- Options exclude each other, or an option was given twice. -/
  | conflict
deriving DecidableEq, Repr

/-- The exit code after a refusal.  Help and version are what was asked for, and no
failure. -/
def Refusal.exitCode : Refusal → Int32
  | .help | .version => 0
  | _ => 2

/-- The options that have been given. -/
structure Given where
  script : Option String := none
  scriptFile : Option String := none
  backend : Option String := none
  sync : Option String := none
  pull : Option String := none
  push : Option String := none
  continueOnError : Option String := none
  program : Option String := none
  verbosity : Option UInt8 := none
  echo : Option Bool := none
  outputFormat : Option Format := none
deriving DecidableEq, Repr, Inhabited

/-- A number from 0 to 255, in decimal and with or without a sign. -/
def verbosityOf (value : String) : Except Refusal UInt8 :=
  match Text.signedNumeral? value.toList with
  | some n => if 0 ≤ n ∧ n ≤ 255 then .ok (UInt8.ofNat n.toNat) else .error .outOfRange
  | none => .error .outOfRange

/-- The words that say no, in lower case. -/
def noWords : List String := ["", "n", "no", "f", "false", "off", "0"]

/-- A text means yes unless it is one of the words that say no. -/
def meansYes (value : String) : Bool :=
  !(noWords.contains (String.ofList (value.toList.map Char.toLower)))

/-- The form of a name. -/
def formatOf (value : String) : Except Refusal Format :=
  if value = "text" then .ok .text
  else if value = "json" then .ok .json
  else .error .invalidValue

namespace Given

/-- Whether an option has been given. -/
def has (given : Given) : Setting → Bool
  | .script => given.script.isSome
  | .scriptFile => given.scriptFile.isSome
  | .backend => given.backend.isSome
  | .sync => given.sync.isSome
  | .pull => given.pull.isSome
  | .push => given.push.isSome
  | .continueOnError => given.continueOnError.isSome
  | .program => given.program.isSome
  | .verbosity => given.verbosity.isSome
  | .echo => given.echo.isSome
  | .outputFormat => given.outputFormat.isSome

/-- Gives an option a value, if the option takes such a value. -/
def assign (given : Given) (setting : Setting) (value : String) : Except Refusal Given :=
  match setting with
  | .script => .ok { given with script := some value }
  | .scriptFile =>
      if value.isEmpty then .error .invalidValue
      else .ok { given with scriptFile := some value }
  | .backend => .ok { given with backend := some value }
  | .sync => .ok { given with sync := some value }
  | .pull => .ok { given with pull := some value }
  | .push => .ok { given with push := some value }
  | .continueOnError => .ok { given with continueOnError := some value }
  | .program => .ok { given with program := some value }
  | .verbosity => (verbosityOf value).map fun n => { given with verbosity := some n }
  | .echo => .ok { given with echo := some (meansYes value) }
  | .outputFormat => (formatOf value).map fun form => { given with outputFormat := some form }

/-- Gives an option a value for the first and only time. -/
def assignOnce (given : Given) (setting : Setting) (value : String) : Except Refusal Given :=
  if given.has setting then .error .conflict else given.assign setting value

end Given
end Input
end MetricsScript
