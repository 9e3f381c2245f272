import MetricsScript.Host.Programs
import MetricsScript.Host.Shell.Fields
import MetricsScript.Host.Utilities.Echo
import MetricsScript.Host.Utilities.Exchange
import MetricsScript.Host.Utilities.Sequence
import MetricsScript.Host.Utilities.Streams
import MetricsScript.Host.Utilities.Test

/-!
# Commands of the shell

Some commands are carried out by the shell itself; others are programs that it starts.  Some
of the former are special: a fault in them ends the shell.

The shell only serves to run tools on a machine; no theorem is about it.
-/

namespace MetricsScript
namespace Host
namespace Shell

/-- The special commands. -/
def specialCommands : List String :=
  [".", ":", "break", "continue", "eval", "exec", "exit", "export", "readonly", "return", "set",
    "shift", "times", "trap", "unset"]

/-- Complains of a fault in a special command. -/
def State.failSpecial (s : State) (message : String) : State :=
  { s.complain message 2 with leaving := some .shell }

/-- The shell after a command has done its work.  A command whose output cannot be written
has failed. -/
def State.finish (s : State) (name : String) (work : Work) : State :=
  let (s, complete) := s.write 1 work.stdout
  let s := { (s.write 2 work.stderr).1 with status := work.code }
  if complete then s else s.complain (name ++ ": " ++ name ++ ": I/O error") 1

/-- The shell after a program has done its work, which takes time.  A program says itself why
its output cannot be written. -/
def State.finishProgram (s : State) (name : String) (work : Work) (duration : Nat) : State :=
  let s := s.advance (s.clock + programDelay + duration)
  let (s, complete) := s.write 1 work.stdout
  let s := { (s.write 2 work.stderr).1 with status := work.code }
  if complete then s
  else
    let reason :=
      if (s.targets.lookup 1).isSome then "No space left on device" else "Bad file descriptor"
    { (s.write 2 (bytesOf (name ++ ": write error: " ++ reason ++ "\n"))).1 with status := 1 }

/-- The shell after a program that may have read from standard input. -/
def State.finishReading (s : State) (name : String) (reading : Reading) : State :=
  { s with stdin := reading.stdin }.finishProgram name reading.work 0

/-- The names of the signals that have one, by their numbers. -/
def signalNames : List (Nat × String) :=
  [(1, "HUP"), (2, "INT"), (3, "QUIT"), (4, "ILL"), (5, "TRAP"), (6, "ABRT"), (7, "BUS"),
    (8, "FPE"), (9, "KILL"), (10, "USR1"), (11, "SEGV"), (12, "USR2"), (13, "PIPE"),
    (14, "ALRM"), (15, "TERM"), (17, "CHLD"), (18, "CONT"), (19, "STOP"), (20, "TSTP"),
    (21, "TTIN"), (22, "TTOU"), (23, "URG"), (24, "XCPU"), (25, "XFSZ"), (26, "VTALRM"),
    (27, "PROF"), (28, "WINCH"), (29, "IO"), (30, "PWR"), (31, "SYS")]

/-- The number of a signal. -/
def signal? (name : String) : Option Nat :=
  match Text.numeral? name.toList with
  | some n => if n ≤ 64 then some n else none
  | none => (signalNames.find? fun entry => entry.2 = name).map Prod.fst

/-- The name of a signal, or its number.  The signals from the 34th on are named by their
distance from the ends of their range. -/
def signalName (signal : Nat) : String :=
  match signalNames.lookup signal with
  | some name => name
  | none =>
      if signal < 34 then toString signal
      else if signal = 34 then "RTMIN"
      else if signal < 50 then "RTMIN+" ++ toString (signal - 34)
      else if signal < 64 then "RTMAX-" ++ toString (64 - signal)
      else "RTMAX"

/-- Sends a signal to one target. -/
def State.signal (s : State) (signal : Nat) (target : String) : State :=
  match s.deliver? signal target with
  | some after => after
  | none =>
      if (Text.signedNumeral? target.toList).isSome then s.complain "kill: No such process\n" 1
      else s.complain ("kill: Illegal number: " ++ target) 2

/-- How the command that sends signals is used. -/
def killUsage : String :=
  "kill: Usage: kill [-s sigspec | -signum | -sigspec] [pid | job]... or\nkill -l [exitstatus]"

/-- Prints the names of signals: that of one whose number or whose exit code is given, or all of
them. -/
def State.listSignals (s : State) : List String → State
  | [] =>
      let lines := (List.range 65).map fun signal => signalName signal ++ "\n"
      s.finish "kill" (.print (bytesOf (String.join lines)))
  | number :: _ =>
      match Text.numeral? number.toList with
      | none => s.complain ("kill: Illegal number: " ++ number) 2
      | some n =>
          let signal := if 128 < n then n - 128 else n
          if 64 < signal then
            s.complain ("kill: invalid signal number or exit status: " ++ number) 2
          else s.finish "kill" (.print (bytesOf (signalName signal ++ "\n")))

/-- Sends a signal to the shell itself or to its jobs. -/
def State.kill (s : State) (arguments : List String) : State :=
  let send (n : Nat) (targets : List String) : State :=
    if targets.isEmpty then s.complain killUsage 2
    else targets.foldl (fun s target => s.signal n target) { s with status := 0 }
  match arguments with
  | "-l" :: numbers => s.listSignals numbers
  | ["-s"] => s.complain "kill: No arg for -s option" 2
  | "-s" :: name :: targets =>
      match signal? name with
      | some n => send n targets
      | none => s.complain ("kill: invalid signal number or name: " ++ name) 2
  | option :: targets =>
      match option.toList with
      | '-' :: c :: cs =>
          match signal? (String.ofList (c :: cs)) with
          | some n => send n targets
          | none => s.complain ("kill: Illegal option -" ++ c.toString) 2
      | _ => send 15 arguments
  | [] => send 15 []

/-- Ends the shell. -/
def State.exit (s : State) : List String → State
  | [] => { s with leaving := some .shell }
  | code :: _ =>
      match Text.numeral? code.toList with
      | some n => { s with status := n % 256, leaving := some .shell }
      | none => s.failSpecial ("exit: Illegal number: " ++ code)

/-- Leaves a function, or the script. -/
def State.return (s : State) (arguments : List String) : State :=
  let left := some (if s.inFunction then Leaving.function else .shell)
  match arguments with
  | [] => { s with leaving := left }
  | code :: _ =>
      match Text.numeral? code.toList with
      | some n => { s with status := n % 256, leaving := left }
      | none => s.failSpecial ("return: Illegal number: " ++ code)

/-- Leaves loops, as far as there are any. -/
def State.leaveLoops (s : State) (name : String) (arguments : List String) : State :=
  let count := arguments.headD "1"
  match (Text.numeral? count.toList).filter (0 < ·) with
  | none => s.failSpecial (name ++ ": Illegal number: " ++ count)
  | some n =>
      if s.loops = 0 then { s with status := 0 }
      else
        { s with
          status := 0
          leaving := some (.loops (min n s.loops - 1) (name = "continue")) }

/-- Takes parameters away from the front. -/
def State.shift (s : State) (arguments : List String) : State :=
  let count := arguments.headD "1"
  match Text.numeral? count.toList with
  | none => s.failSpecial ("shift: Illegal number: " ++ count)
  | some n =>
      if n ≤ s.parameters.length then { s with status := 0, parameters := s.parameters.drop n }
      else s.failSpecial "shift: can't shift that many"

/-- The name in an argument that may assign a value too. -/
def assignedName (argument : String) : String :=
  String.ofList (argument.toList.takeWhile (· != '='))

/-- Gives a variable the value that an argument assigns, if it does. -/
def State.assignArgument (s : State) (argument : String) : State :=
  match splitAssignment? argument with
  | some (name, value) => s.assign name value
  | none => s

/-- Does something for each of the names in arguments. -/
def State.eachName (s : State) (command : String) (work : State → String → State)
    (arguments : List String) : State :=
  arguments.foldl
    (fun s argument =>
      if s.leaving.isSome then s
      else if isName (assignedName argument) then work s argument
      else s.failSpecial (command ++ ": " ++ assignedName argument ++ ": bad variable name"))
    { s with status := 0 }

/-- Hands variables on to programs. -/
def State.export (s : State) (arguments : List String) : State :=
  s.eachName "export"
    (fun s argument =>
      let s := s.assignArgument argument
      { s with exported := assignedName argument :: s.exported }) arguments

/-- Lets variables keep their values. -/
def State.fix (s : State) (arguments : List String) : State :=
  s.eachName "readonly"
    (fun s argument =>
      let s := s.assignArgument argument
      { s with fixed := assignedName argument :: s.fixed }) arguments

/-- Takes the value of a variable away, if it can be changed. -/
def State.unsetOne (s : State) (name : String) : State :=
  if s.fixed.contains name then s.failSpecial ("unset: " ++ name ++ ": is read only")
  else s.unset name

/-- Gives variables a value within the function at hand. -/
def State.local (s : State) (arguments : List String) : State :=
  if s.inFunction then
    s.eachName "local"
      (fun s argument =>
        let name := assignedName argument
        { s with shadowed := (name, s.bindings.lookup name) :: s.shadowed }.assignArgument
          argument) arguments
  else s.failSpecial "local: not in a function"

/-- Takes variables or functions away. -/
def State.unsetAll (s : State) (arguments : List String) : State :=
  match arguments with
  | "-f" :: names =>
      { s with
        status := 0
        functions := s.functions.filter fun entry => !names.contains entry.1 }
  | "-v" :: names | names => s.eachName "unset" State.unsetOne names

/-- Turns an option on or off. -/
def Options.turn? (options : Options) (on : Bool) (letter : Char) : Option Options :=
  match letter with
  | 'e' => some { options with ending := on }
  | 'u' => some { options with strict := on }
  | 'x' => some { options with tracing := on }
  | 'a' | 'b' | 'f' | 'm' | 'n' | 'v' | 'C' | 'I' | 'V' | 'E' => some options
  | _ => none

/-- The letter of an option that has a long name. -/
def longOption? : String → Option Char
  | "errexit" => some 'e'
  | "nounset" => some 'u'
  | "xtrace" => some 'x'
  | "noglob" => some 'f'
  | "verbose" => some 'v'
  | _ => none

/-- Turns options on or off, letter by letter. -/
def Options.turnAll (options : Options) (on : Bool) : List Char → Except Char Options
  | [] => .ok options
  | letter :: letters =>
      match options.turn? on letter with
      | some options => options.turnAll on letters
      | none => .error letter

/-- Sets options, and the parameters if others are given. -/
def State.set (s : State) : List String → State
  | [] => { s with status := 0 }
  | "--" :: parameters => { s with status := 0, parameters := parameters }
  | "-o" :: name :: arguments | "+o" :: name :: arguments =>
      match longOption? name with
      | some letter =>
          { s with options := (s.options.turn? true letter).getD s.options }.set arguments
      | none => s.failSpecial ("set: Illegal option -o " ++ name)
  | argument :: arguments =>
      match argument.toList with
      | '-' :: c :: cs =>
          match s.options.turnAll true (c :: cs) with
          | .ok options => { s with options := options }.set arguments
          | .error letter => s.failSpecial ("set: Illegal option -" ++ letter.toString)
      | '+' :: c :: cs =>
          match s.options.turnAll false (c :: cs) with
          | .ok options => { s with options := options }.set arguments
          | .error letter => s.failSpecial ("set: Illegal option +" ++ letter.toString)
      | _ => { s with status := 0, parameters := argument :: arguments }

/-- Says what is to be run for a signal. -/
def State.setTrap (s : State) (action : Option String) (name : String) : State :=
  match if name = "EXIT" then some 0 else signal? name with
  | some signal =>
      let others := s.traps.filter fun entry => entry.1 ≠ signal
      { s with
        traps := match action with
          | some action => (signal, action) :: others
          | none => others }
  | none => { (s.write 2 (bytesOf ("trap: " ++ name ++ ": bad trap\n"))).1 with status := 1 }

/-- A text in single quotes. -/
def inQuotes (text : String) : String :=
  "'" ++ String.join (text.toList.map fun c => if c = '\'' then "'\"'\"'" else c.toString) ++ "'"

/-- Sets what is to be run for signals, or shows it. -/
def State.trap (s : State) (arguments : List String) : State :=
  let arguments := match arguments with
    | "--" :: more => more
    | _ => arguments
  match arguments with
  | [] =>
      let lines := (s.traps.mergeSort fun first second => first.1 ≤ second.1).map fun entry =>
        let name := if entry.1 = 0 then "EXIT" else signalName entry.1
        "trap -- " ++ inQuotes entry.2 ++ " " ++ name ++ "\n"
      s.finish "trap" ⟨bytesOf (String.join lines), [], 0⟩
  | [name] => { s with status := 0 }.setTrap none name
  | action :: names =>
      let action := if action = "-" then none else some action
      names.foldl (fun s name => s.setTrap action name) { s with status := 0 }

/-- The first line of some bytes and the bytes behind it, and whether the line is complete.
Unless it is raw, a backslash joins a line with the next one. -/
def takeLine (raw : Bool) : List UInt8 → List UInt8 × List UInt8 × Bool
  | [] => ([], [], false)
  | [b] => if b = 10 then ([], [], true) else ([b], [], false)
  | b :: c :: bs =>
      if b = 10 then ([], c :: bs, true)
      else if b = 92 && !raw then
        let (line, rest, complete) := takeLine raw bs
        (if c = 10 then line else b :: c :: line, rest, complete)
      else
        let (line, rest, complete) := takeLine raw (c :: bs)
        (b :: line, rest, complete)

/-- The characters of a line, and which of them a backslash protects. -/
def markLine (raw : Bool) : List Char → List Marked
  | '\\' :: c :: cs =>
      if raw then ⟨'\\', false⟩ :: markLine raw (c :: cs) else ⟨c, true⟩ :: markLine raw cs
  | c :: cs => ⟨c, false⟩ :: markLine raw cs
  | [] => []

/-- Whether a character parts fields, and is a blank. -/
def Marked.parts (separators : String) (m : Marked) : Bool × Bool :=
  let separates := !m.quoted && separators.toList.contains m.char
  (separates, separates && isBlank m.char)

/-- The text of marked characters. -/
def textOfMarked (ms : List Marked) : String :=
  String.ofList (ms.map Marked.char)

/-- Distributes a line over names; the last name takes all that is left. -/
def distribute (separators : String) : List String → List Marked → List (String × String)
  | [], _ => []
  | [name], ms =>
      let isBlank (m : Marked) := (m.parts separators).2
      [(name, textOfMarked ((ms.dropWhile isBlank).reverse.dropWhile isBlank).reverse)]
  | name :: names, ms =>
      let start := ms.dropWhile fun m => (m.parts separators).2
      let field := start.takeWhile fun m => !(m.parts separators).1
      let behind := (start.drop field.length).dropWhile fun m => (m.parts separators).2
      let rest := match behind with
        | m :: more => if (m.parts separators).1 then more else behind
        | [] => []
      (name, textOfMarked field) :: distribute separators names rest

/-- Reads a line from standard input into variables. -/
def State.read (s : State) (arguments : List String) : State :=
  let (raw, names) := match arguments with
    | "-r" :: names => (true, names)
    | names => (false, names)
  match names, names.find? fun name => !isName name with
  | [], _ => s.complain "read: arg count" 2
  | _, some name => s.complain ("read: " ++ name ++ ": bad variable name") 2
  | _, none =>
      let (line, rest, complete) := takeLine raw s.stdin
      let entries := distribute s.separators names (markLine raw (Text.Utf8.decode line).toList)
      let s := entries.foldl (fun s entry => s.assign entry.1 entry.2) { s with stdin := rest }
      { s with status := if complete then 0 else 1 }

/-- The path of a location. -/
def pathOf (location : Location) : String :=
  "/" ++ "/".intercalate location

/-- Goes to another directory; a hyphen stands for the one that was left last. -/
def State.changeDirectory (s : State) (arguments : List String) : State :=
  let path := match arguments with
    | [] => (s.bindings.lookup "HOME").getD ""
    | "-" :: _ => (s.bindings.lookup "OLDPWD").getD ""
    | path :: _ => path
  if path.isEmpty then { s with status := 0 }
  else
    match s.files.locate path, s.files.find path with
    | .ok (location, _), .ok .directory =>
        let after :=
          { (s.assign "OLDPWD" (pathOf s.files.working)).assign "PWD" (pathOf location) with
            status := 0
            files := { s.files with working := location } }
        if arguments.head? = some "-" then
          after.finish "cd" (.print (bytesOf (pathOf location ++ "\n")))
        else after
    | _, _ => s.complain ("cd: can't cd to " ++ path) 2

/-- Answers a condition. -/
def State.test (s : State) (name : String) (arguments : List String) : State :=
  match Host.test s.files arguments with
  | .ok answer => { s with status := if answer then 0 else 1 }
  | .error reason => s.complain (name ++ ": " ++ reason) 2

/-- Runs a program that is no shell. -/
def State.program (s : State) (utility : Utility) (name : String) (arguments : List String) :
    State :=
  match utility with
  | .cat =>
      if (s.targets.lookup 1).isSome then s.finishReading name (cat s.files s.stdin arguments)
      else s.finishProgram name (.complain "cat: standard output: Bad file descriptor" 1) 0
  | .head => s.finishReading name (head s.files s.stdin arguments)
  | .tr => s.finishReading name ⟨tr s.stdin arguments, []⟩
  | .sleep =>
      let (work, duration) := sleep arguments
      s.finishProgram name work duration
  | .sequence => s.finishProgram name (printSequence arguments) 0
  | .repetition => s.finishProgram name (printRepeatedly arguments) 0
  | .printf => s.finishProgram name (printf .program arguments) 0
  | .echo => s.finishProgram name (programEcho arguments) 0
  | .test => s.finishProgram name (testProgram s.files arguments) 0
  | .succeed | .tool | .shell => s.finishProgram name (.print []) 0
  | .fail => s.finishProgram name ⟨[], [], 1⟩ 0

/-- Carries out a command of the shell that runs nothing else, if it is one. -/
def State.builtin? (s : State) (name : String) (arguments : List String) : Option State :=
  match name with
  | ":" | "true" => some { s with status := 0 }
  | "false" => some { s with status := 1 }
  | "echo" => some (s.finish name (shellEcho arguments))
  | "printf" => some (s.finish name (printf (.shell s.heading) arguments))
  | "test" => some (s.test name arguments)
  | "[" =>
      if arguments.getLast? = some "]" then some (s.test name arguments.dropLast)
      else some (s.complain "[: missing ]" 2)
  | "read" => some (s.read arguments)
  | "wait" => some (s.wait arguments)
  | "kill" => some (s.kill arguments)
  | "exit" => some (s.exit arguments)
  | "return" => some (s.return arguments)
  | "break" | "continue" => some (s.leaveLoops name arguments)
  | "export" => some (s.export arguments)
  | "readonly" => some (s.fix arguments)
  | "local" => some (s.local arguments)
  | "unset" => some (s.unsetAll arguments)
  | "shift" => some (s.shift arguments)
  | "set" => some (s.set arguments)
  | "trap" => some (s.trap arguments)
  | "cd" => some (s.changeDirectory arguments)
  | "pwd" => some (s.finish name ⟨bytesOf (pathOf s.files.working ++ "\n"), [], 0⟩)
  | "times" =>
      let line := "0m0.000000s 0m0.000000s\n"
      some (s.finish name ⟨bytesOf (line ++ line), [], 0⟩)
  | _ => none

end Shell
end Host
end MetricsScript
