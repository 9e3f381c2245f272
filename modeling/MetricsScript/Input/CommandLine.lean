import MetricsScript.Input.Options

/-!
# Reading the command line

Arguments are read from left to right.  An option may carry its value behind an equals sign;
otherwise its value is the next argument, unless that looks like an option itself.  A value
is looked at only when the next option begins, so an argument that nobody knows is found
before a wrong value in front of it.

When all arguments have been read, the environment gives the options that they left out.
-/

namespace MetricsScript
namespace Input

/-- An option whose value has not been looked at yet. -/
inductive Pending where
  /-- The next argument may be its value. -/
  | awaiting (setting : Setting)
  /-- This is its value. -/
  | holding (setting : Setting) (value : String)
deriving DecidableEq, Repr

/-- What an argument looks like. -/
inductive Shape where
  /-- Two hyphens and nothing else: no options follow. -/
  | dashes
  /-- An option's name after two hyphens, and perhaps a value behind an equals sign. -/
  | long (name : String) (value : Option String)
  /-- A letter after one hyphen, and perhaps more. -/
  | short (letter : Char)
  /-- Anything else. -/
  | plain
deriving DecidableEq, Repr

/-- The shape of an argument.  A single hyphen is no option. -/
def shapeOf (argument : String) : Shape :=
  match argument.toList with
  | ['-', '-'] => .dashes
  | '-' :: '-' :: cs =>
      let name := String.ofList (cs.takeWhile fun c => c != '=')
      match cs.dropWhile fun c => c != '=' with
      | [] => .long name none
      | _ :: value => .long name (some (String.ofList value))
  | '-' :: letter :: _ => .short letter
  | _ => .plain

/-- Gives the pending option its value.  An option that still awaits a value gets none. -/
def settle (given : Given) : Option Pending → Except Refusal Given
  | none => .ok given
  | some (.holding setting value) => given.assignOnce setting value
  | some (.awaiting setting) =>
      match setting.arity with
      | .one => .error .invalidValue
      | .optional | .switch => given.assignOnce setting "true"

/-- What a name after two hyphens stands for. -/
inductive Named where
  | help
  | version
  | setting (setting : Setting)
deriving DecidableEq, Repr

/-- Finds an option or a request by its name. -/
def named? (name : String) : Option Named :=
  if name = "help" then some .help
  else if name = "version" then some .version
  else (Setting.named? name).map .setting

/-- The refusal that a request comes to, once the option before it has been settled. -/
def request (given : Given) (pending : Option Pending) (refusal : Refusal) :
    Except Refusal (Given × Option Pending) := do
  let _ ← settle given pending
  .error refusal

/-- Reads an option by its name. -/
def readLong
    (given : Given) (pending : Option Pending) (name : String) (value : Option String) :
    Except Refusal (Given × Option Pending) :=
  match named? name, value with
  | none, _ => .error .unknownArgument
  | some .help, none => request given pending .help
  | some .version, none => request given pending .version
  | some .help, some _ | some .version, some _ => .error .tooManyValues
  | some (.setting setting), some value =>
      if setting.arity = .switch then .error .tooManyValues
      else do
        let given ← settle given pending
        let given ← given.assignOnce setting value
        return (given, none)
  | some (.setting setting), none => do
      let given ← settle given pending
      if setting.arity = .switch then
        let given ← given.assignOnce setting "true"
        return (given, none)
      else return (given, some (.awaiting setting))

/-- Reads an option by its letter. -/
def readShort (given : Given) (pending : Option Pending) (letter : Char) :
    Except Refusal (Given × Option Pending) :=
  if letter = 'h' then request given pending .help
  else if letter = 'V' then request given pending .version
  else .error .unknownArgument

/-- Whether the next argument belongs to the pending option whatever it looks like. -/
def takesAnything : Option Pending → Bool
  | some (.awaiting setting) => setting.allowsHyphen
  | _ => false

/-- Reads an argument that is no option. -/
def readPlain (given : Given) (pending : Option Pending) (argument : String) :
    Except Refusal (Given × Option Pending) :=
  match pending with
  | some (.awaiting setting) => .ok (given, some (.holding setting argument))
  | _ => .error .unknownArgument

/-- Reads arguments, some options having been given before. -/
def readArguments (given : Given) (pending : Option Pending) :
    List String → Except Refusal Given
  | [] => settle given pending
  | argument :: rest =>
      if takesAnything pending then
        match readPlain given pending argument with
        | .ok (given, pending) => readArguments given pending rest
        | .error refusal => .error refusal
      else
        match shapeOf argument with
        | .dashes => if rest.isEmpty then settle given pending else .error .unknownArgument
        | .long name value =>
            match readLong given pending name value with
            | .ok (given, pending) => readArguments given pending rest
            | .error refusal => .error refusal
        | .short letter =>
            match readShort given pending letter with
            | .ok (given, pending) => readArguments given pending rest
            | .error refusal => .error refusal
        | .plain =>
            match readPlain given pending argument with
            | .ok (given, pending) => readArguments given pending rest
            | .error refusal => .error refusal

/-- The variables of an environment.  Of two settings of one variable the later counts. -/
abbrev Environment := List (String × String)

/-- The value of a variable. -/
def valueOf? (environment : Environment) (name : String) : Option String :=
  environment.reverse.lookup name

/-- Gives the options that are still missing the values of their variables. -/
def readEnvironment (environment : Environment) (given : Given) :
    List Setting → Except Refusal Given
  | [] => .ok given
  | setting :: rest =>
      match setting.variableName.bind (valueOf? environment) with
      | some value =>
          if given.has setting then readEnvironment environment given rest
          else
            match given.assign setting value with
            | .ok given => readEnvironment environment given rest
            | .error refusal => .error refusal
      | none => readEnvironment environment given rest

/-- Reads the options from the arguments and the environment.  A script and a file to read
it from exclude each other. -/
def readOptions (arguments : List String) (environment : Environment) :
    Except Refusal Given := do
  let given ← readArguments {} none arguments
  let given ← readEnvironment environment given Setting.all
  if given.has .script && given.has .scriptFile then .error .conflict else .ok given

end Input
end MetricsScript
