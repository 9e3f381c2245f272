import MetricsScript.Host.Shell.Builtin
import MetricsScript.Tool.Collector

/-!
# Running a shell script

A statement changes the state of the shell.  Loops are given a number of turns after which
they end, and functions and commands within words a depth; both are far beyond what scripts
need.

The shell only serves to run tools on a machine; no theorem is about it.
-/

namespace MetricsScript
namespace Host

/-- What a program leaves behind when it has ended. -/
structure Ran where
  stdout : List UInt8
  stderr : List UInt8
  status : Tool.Status
deriving DecidableEq, Repr

namespace Shell

/-- Leads a descriptor to a file, from whose end on is written.  Unless the redirection appends,
what was in the file is lost. -/
def State.leadToFile (s : State) (r : Redirect) (path : String) : Except String State :=
  let lead (target : Target) : Except String State := .ok (s.lead r.descriptor (some target))
  let follow (descriptor : Nat) : Except String State :=
    match s.targets.lookup descriptor with
    | some target => lead target
    | none => .error "Directory nonexistent"
  match s.files.find path with
  | .ok (.device .null) | .ok (.device .zero) => lead .nowhere
  | .ok (.device .full) => lead .full
  | .ok (.device .output) => follow 1
  | .ok (.device .errors) => follow 2
  | .ok .directory => .error "Is a directory"
  | .ok (.executable _ _) => lead .nowhere
  | .ok (.file _) | .error _ =>
      match s.files.append path [], s.files.locate path with
      | .ok files, .ok (location, _) =>
          let files := if r.form = .append then files else files.put location (.file [])
          .ok ({ s with files := files }.lead r.descriptor (some (.file location)))
      | _, _ => .error "Directory nonexistent"

/-- Lets a descriptor read some bytes. -/
def State.feed (s : State) (r : Redirect) (bytes : List UInt8) : State :=
  if r.descriptor = 0 then { s with stdin := bytes } else s.lead r.descriptor (some .nowhere)

/-- Leads a descriptor where another one leads, or closes it. -/
def State.duplicate (s : State) (r : Redirect) (source : String) : State × Bool :=
  if source = "-" then
    (if r.descriptor = 0 then { s with stdin := [] } else s.lead r.descriptor none, true)
  else
    match source.toList, Text.numeral? source.toList with
    | [_], some n =>
        if r.descriptor = 0 || n = 0 then (s, true)
        else
          match s.targets.lookup n with
          | some target => (s.lead r.descriptor (some target), true)
          | none =>
              if r.descriptor = 2 then ({ s with status := 2 }, false)
              else (s.report (source ++ ": Bad file descriptor") 2, false)
    | _, _ => (s.fail "Syntax error: Bad fd number", false)

/-- The state with one redirection in force, if it can be. -/
def redirect (interpret : Interpreter) (s : State) (r : Redirect) : State × Bool :=
  let (text, s) := expandText interpret false r.target s
  if s.leaving.isSome then (s, false)
  else match r.form with
  | .output | .append =>
      match s.leadToFile r text with
      | .ok s => (s, true)
      | .error reason => (s.report ("cannot create " ++ text ++ ": " ++ reason) 2, false)
  | .input =>
      match s.files.source text with
      | .ok source => (s.feed r source.all, true)
      | .error .isADirectory => (s.feed r [], true)
      | .error _ => (s.report ("cannot open " ++ text ++ ": No such file") 2, false)
  | .hereString | .hereDocument => (s.feed r (bytesOf text), true)
  | .duplicateOutput | .duplicateInput => s.duplicate r text

/-- The state with redirections in force, as far as they can be. -/
def redirectAll (interpret : Interpreter) (s : State) : List Redirect → State × Bool
  | [] => (s, true)
  | r :: rs =>
      let (s, done) := redirect interpret s r
      if done then redirectAll interpret s rs else (s, false)

/-- Does something under redirections.  If one of them fails, the shell ends where something
special was to be done. -/
def underRedirects
    (interpret : Interpreter) (redirects : List Redirect) (special : Bool)
    (work : State → State) (s : State) : State :=
  let (inner, done) := redirectAll interpret s redirects
  let after :=
    if done then work inner
    else
      let leaving := if special then some .shell else none
      { inner with leaving := inner.leaving.orElse fun _ => leaving }
  let redirected (entry : Nat × Target) : Bool :=
    redirects.any fun r => r.descriptor = entry.1
  { after with
    targets := s.targets.filter redirected ++ after.targets.filter fun entry => !redirected entry
    stdin := if redirects.any fun r => r.descriptor = 0 then s.stdin else after.stdin }

/-- The assignments in front of a command, and the command. -/
def splitAssignments : List Word → List (String × Word) × List Word
  | [] => ([], [])
  | word :: words =>
      match assignment? word with
      | some entry =>
          let (entries, rest) := splitAssignments words
          (entry :: entries, rest)
      | none => ([], word :: words)

/-- Carries out assignments.  The answer is what was assigned. -/
def assignAll (interpret : Interpreter) : List (String × Word) → State → List String × State
  | [], s => ([], s)
  | (name, word) :: entries, s =>
      let (text, s) := expandText interpret true word s
      if s.leaving.isSome then ([], s)
      else
        let (shown, s) := assignAll interpret entries (s.assign name text)
        ((name ++ "=" ++ text) :: shown, s)

/-- Gives variables back the values that they had before. -/
def State.restoreVariables (s before : State) (names : List String) : State :=
  names.foldr
    (fun name s =>
      let s := match before.bindings.lookup name with
        | some value => s.assign name value
        | none => { s with bindings := s.bindings.filter fun entry => entry.1 ≠ name }
      if before.exported.contains name then s
      else { s with exported := s.exported.filter (· ≠ name) }) s

/-- Shows a command if the shell is told to, where errors went before its redirections. -/
def State.showCommand (s before : State) (texts : List String) : State :=
  if s.options.tracing && !texts.isEmpty then
    let shown := bytesOf ("+ " ++ " ".intercalate texts ++ "\n")
    { ({ s with targets := before.targets }.write 2 shown).1 with targets := s.targets }
  else s

/-- Runs what is to be run for signals that have arrived. -/
def runPending (interpret : Interpreter) (s : State) : State :=
  if s.within || s.leaving.isSome then s
  else
    s.pending.foldl
      (fun s signal =>
        if s.leaving.isSome then s
        else
          let after := runText interpret false 1 ((s.traps.lookup signal).getD "") s
          if after.leaving.isSome then after else { after with status := s.status })
      { s with pending := [] }

/-- Ends a shell: what is to be run at its end is run. -/
def endShell (interpret : Interpreter) (s : State) : State :=
  match s.leaving, s.traps.lookup 0 with
  | some .killed, _ | _, none => s
  | _, some action =>
      let last :=
        { s with leaving := none, traps := s.traps.filter fun entry => entry.1 ≠ 0 }
      let after := runText interpret false 1 action last
      if after.leaving.isSome then after else { after with status := s.status }

/-- Calls a function. -/
def callFunction
    (interpret : Interpreter) (tested : Bool) (body : Statement) (arguments : List String)
    (s : State) : State :=
  let after := interpret tested body
    { s with parameters := arguments, inFunction := true, loops := 0, shadowed := [] }
  let restored := after.shadowed.foldl
    (fun s entry =>
      match entry.2 with
      | some value => s.assign entry.1 value
      | none => s.unset entry.1) after
  { restored with
    leaving := if after.leaving = some .function then none else after.leaving
    parameters := s.parameters
    inFunction := s.inFunction
    loops := s.loops
    shadowed := s.shadowed }

/-- How a shell was started. -/
structure Startup where
  options : Options
  /-- Whether the script is an argument. -/
  given : Bool
  /-- Whether the script stands on standard input although there are operands. -/
  fromInput : Bool
  operands : List String

/-- Reads the options with which a shell is started. -/
def Startup.read (up : Startup) : List String → Except String Startup
  | [] => .ok up
  | "-" :: operands | "--" :: operands => .ok { up with operands := operands }
  | argument :: arguments =>
      match argument.toList with
      | '-' :: letters =>
          match up.options.turnAll true (letters.filter fun c => c != 'c' && c != 's') with
          | .ok options =>
              { up with
                options := options
                given := up.given || letters.contains 'c'
                fromInput := up.fromInput || letters.contains 's' }.read arguments
          | .error letter => .error ("Illegal option -" ++ letter.toString)
      | _ => .ok { up with operands := argument :: arguments }

/-- What a shell is started for. -/
structure Errand where
  options : Options
  name : String
  parameters : List String
  script : String
  /-- What is left to be read from standard input. -/
  stdin : List UInt8

/-- What a shell with arguments is started for.  The script is an argument, the content of a
file, or what stands on standard input. -/
def Errand.of (files : Files) (stdin : List UInt8) (arguments : List String) :
    Except String Errand := do
  let up ← Startup.read ⟨⟨false, false, false⟩, false, false, []⟩ arguments
  match up.given, up.operands with
  | true, [] => .error "-c requires an argument"
  | true, script :: names => .ok ⟨up.options, names.headD "sh", names.tail, script, stdin⟩
  | false, [] => .ok ⟨up.options, "sh", [], Text.Utf8.decode stdin, []⟩
  | false, path :: parameters =>
      if up.fromInput then
        .ok ⟨up.options, "sh", path :: parameters, Text.Utf8.decode stdin, []⟩
      else
        match files.read path with
        | .ok content => .ok ⟨up.options, path, parameters, Text.Utf8.decode content, stdin⟩
        | .error _ => .error ("cannot open " ++ path ++ ": No such file")

/-- Runs a shell as a program. -/
def runShell (interpret : Interpreter) (arguments : List String) (s : State) : State :=
  match Errand.of s.files s.stdin arguments with
  | .error reason => s.finishProgram "sh" (.complain ("sh: 0: " ++ reason) 2) 0
  | .ok errand =>
      let inside := s.inside
      let inner :=
        { inside with
          name := errand.name
          line := 1
          context := ""
          options := errand.options
          parameters := errand.parameters
          bindings := s.bindings.filter fun entry => s.exported.contains entry.1
          fixed := []
          shadowed := []
          functions := []
          pending := []
          loops := 0
          inFunction := false
          status := 0
          stdin := errand.stdin
          own := s.nextNumber
          within := false
          clock := inside.clock + programDelay
          nextNumber := s.nextNumber + 1
          stopping := none }
      let after := endShell interpret (runText interpret false 1 errand.script inner)
      let back :=
        s.afterInside { after with pending := s.pending, stopping := s.stopping }
      match after.leaving, signalText? (after.status - 128) with
      | some .killed, some text => (back.write 2 (bytesOf (text ++ "\n"))).1
      | _, _ => back

/-- Starts the program of a name. -/
def launch (interpret : Interpreter) (name : String) (arguments : List String) (s : State) :
    State :=
  match s.files.findProgram ((s.bindings.lookup "PATH").getD standardPath) name with
  | .ok program =>
      if program.utility = .shell then runShell interpret arguments s
      else s.program program.utility name arguments
  | .error cause =>
      let missing := cause = .notFound || cause = .notADirectory
      let reason :=
        if name.isEmpty then "Permission denied"
        else if missing then "not found"
        else reasonOf cause
      s.report (name ++ ": " ++ reason)
        (if missing || !name.toList.contains '/' then 127 else 126)

/-- What stands behind a name: what it is said to be, and how it is called. -/
def describe? (s : State) (name : String) : Option (String × String) :=
  if keywords.contains name then some ("a shell keyword", name)
  else if specialCommands.contains name then some ("a special shell builtin", name)
  else if (s.functions.lookup name).isSome then some ("a shell function", name)
  else if ["eval", "command", "type"].contains name || (s.builtin? name []).isSome then
    some ("a shell builtin", name)
  else
    match s.files.findProgram ((s.bindings.lookup "PATH").getD standardPath) name with
    | .ok program => some (program.path, program.path)
    | .error _ => none

/-- Says what stands behind names. -/
def State.describe (s : State) (names : List String) : State :=
  names.foldl
    (fun s name =>
      match describe? s name with
      | some (kind, _) =>
          { s.finish "type" (.print (bytesOf (name ++ " is " ++ kind ++ "\n"))) with
            status := s.status }
      | none => s.finish "type" ⟨bytesOf (name ++ ": not found\n"), [], 127⟩)
    { s with status := 0 }

/-- Says how names are called. -/
def State.resolve (s : State) (names : List String) : State :=
  match names.head?.map (describe? s) with
  | some (some (_, path)) => s.finish "command" (.print (bytesOf (path ++ "\n")))
  | some none => { s with status := 127 }
  | none => { s with status := 0 }

/-- Runs the content of a file. -/
def runFile (interpret : Interpreter) (tested : Bool) (path : String) (s : State) : State :=
  match s.files.read path with
  | .ok content => runText interpret tested 1 (Text.Utf8.decode content) s
  | .error _ => s.failSpecial (".: cannot open " ++ path ++ ": No such file")

/-- Carries out a command that is not a function. -/
def invokePlain
    (interpret : Interpreter) (tested : Bool) (name : String) (arguments : List String)
    (s : State) : State :=
  match name, arguments with
  | "eval", _ =>
      let after := runText interpret tested 1 (" ".intercalate arguments)
        { s with context := "eval: " }
      { after with context := s.context, line := s.line }
  | ".", path :: _ => runFile interpret tested path s
  | "type", _ => s.describe arguments
  | "command", "-v" :: names => s.resolve names
  | _, _ =>
      match s.builtin? name arguments with
      | some s => s
      | none => launch interpret name arguments s

/-- Carries out a command. -/
def invoke
    (interpret : Interpreter) (tested : Bool) (name : String) (arguments : List String)
    (s : State) : State :=
  match if specialCommands.contains name then none else s.functions.lookup name with
  | some body => callFunction interpret tested body arguments s
  | none =>
      match name, arguments with
      | "command", first :: more =>
          if first = "-v" then invokePlain interpret tested name arguments s
          else invokePlain interpret tested first more s
      | "command", [] => { s with status := 0 }
      | _, _ => invokePlain interpret tested name arguments s

/-- Replaces the shell by a program.  What is to be run at the end of the shell is not run. -/
def replaceBy (interpret : Interpreter) (name : String) (arguments : List String) (s : State) :
    State :=
  let before := s.context
  let after := launch interpret name arguments { s with context := "exec: ", traps := [] }
  { after with
    context := before
    leaving := after.leaving.orElse fun _ => some .shell }

/-- Runs a simple command.  Its assignments and redirections last as long as it does; where
there is no command, or a special one, the assignments stay, and what is given to `exec` stays
too.  Without a command the status is that of the last substitution. -/
def runSimple
    (interpret : Interpreter) (tested : Bool) (words : List Word) (redirects : List Redirect)
    (s : State) : State :=
  let (entries, words) := splitAssignments words
  let (fields, s) := expandCommand interpret words { s with substitutionStatus := 0 }
  if s.leaving.isSome then s
  else match fields with
  | [] =>
      underRedirects interpret redirects false
        (fun inner =>
          let (shown, after) := assignAll interpret entries inner
          if after.leaving.isSome then after
          else { after with status := after.substitutionStatus }.showCommand s shown) s
  | "exec" :: arguments =>
      let (inner, done) := redirectAll interpret s redirects
      let inner := inner.showCommand s fields
      match done, arguments with
      | false, _ => { inner with leaving := some .shell }
      | true, [] => { inner with status := 0 }
      | true, name :: arguments => replaceBy interpret name arguments inner
  | name :: arguments =>
      let special := specialCommands.contains name
      underRedirects interpret redirects special
        (fun inner =>
          let (shown, assigned) := assignAll interpret entries inner
          if assigned.leaving.isSome then assigned
          else
            let names := entries.map Prod.fst
            let ready := (if special then assigned
              else { assigned with exported := names ++ assigned.exported }).showCommand s
                (shown ++ fields)
            let after := invoke interpret tested name arguments ready
            if special then after else after.restoreVariables inner names) s

/-- What becomes of a loop after a turn: the state, and whether there may be another turn. -/
def State.afterTurn (s : State) : State × Bool :=
  match s.leaving with
  | none => (s, true)
  | some (.loops 0 goesOn) => ({ s with leaving := none }, goesOn)
  | some (.loops (depth + 1) goesOn) => ({ s with leaving := some (.loops depth goesOn) }, false)
  | some _ => (s, false)

/-- Repeats a body as long as the condition answers as it should, but for a limited number
of turns. -/
def repeatWhile (wanted : Bool) (condition body : State → State) (last : Nat) :
    Nat → State → State
  | 0, s => { s with status := last }
  | turns + 1, s =>
      let (s, again) := (condition s).afterTurn
      if !again then s
      else if (s.status == 0) != wanted then { s with status := last }
      else
        match (body s).afterTurn with
        | (s, true) => repeatWhile wanted condition body s.status turns s
        | (s, false) => s

/-- Repeats a body for each of the values of a variable. -/
def repeatFor (name : String) (body : State → State) : List String → State → State
  | [], s => s
  | value :: values, s =>
      match (body (s.assign name value)).afterTurn with
      | (s, true) => repeatFor name body values s
      | (s, false) => s

/-- The greatest number of turns of a loop. -/
def turnLimit : Nat := 1000000

/-- Does something in a loop. -/
def inLoop (work : State → State) (s : State) : State :=
  { work { s with loops := s.loops + 1 } with loops := s.loops }

/-- The state after a command that may have failed.  If the shell is told to, it ends with a
failure that is not allowed. -/
def State.checked (s : State) (tested : Bool) : State :=
  if s.options.ending && !tested && s.status != 0 && s.leaving.isNone then
    { s with leaving := some .shell }
  else s

/-- Whether one of some patterns admits a subject. -/
def admitsAny (interpret : Interpreter) (subject : String) : List Word → State → Bool × State
  | [], s => (false, s)
  | word :: words, s =>
      let (pieces, s) := expandParts interpret false (s.atHome false word) s
      if (patternOf pieces).admits subject.toList then (true, s)
      else admitsAny interpret subject words s

mutual

/-- Runs a statement. -/
def run (interpret : Interpreter) (tested : Bool) : Statement → State → State
  | .simple line words redirects, s =>
      if s.leaving.isSome then s
      else if words.isEmpty && redirects.isEmpty then { s with status := 0 }
      else
        let after := runSimple interpret tested words redirects { s with line := line }
        runPending interpret (after.checked tested)
  | .sequence first second, s =>
      let s := run interpret tested first s
      if s.leaving.isSome then s else run interpret tested second s
  | .andThen first second, s =>
      let s := run interpret true first s
      if s.leaving.isNone && s.status == 0 then run interpret tested second s else s
  | .orElse first second, s =>
      let s := run interpret true first s
      if s.leaving.isNone && s.status != 0 then run interpret tested second s else s
  | .opposite statement, s =>
      let s := run interpret true statement s
      if s.leaving.isSome then s else { s with status := if s.status = 0 then 1 else 0 }
  | .pipe first second, s =>
      let after := piped (run interpret tested first) (run interpret tested second) s
      runPending interpret (after.checked tested)
  | .conditional condition yes no, s =>
      let s := run interpret true condition s
      if s.leaving.isSome then s
      else if s.status = 0 then run interpret tested yes s
      else run interpret tested no s
  | .loop negated condition body, s =>
      inLoop
        (repeatWhile (!negated) (run interpret true condition) (run interpret tested body) 0
          turnLimit) s
  | .each line name words body, s =>
      let (values, s) := expandWords interpret false words { s with line := line }
      if s.leaving.isSome then s
      else inLoop (repeatFor name (run interpret tested body) values) { s with status := 0 }
  | .select line subject branches, s =>
      let (text, s) := expandText interpret false subject { s with line := line }
      if s.leaving.isSome then s else runBranch interpret tested text branches s
  | .group line body redirects, s =>
      underRedirects interpret redirects false (run interpret tested body) { s with line := line }
  | .subshell line body redirects, s =>
      let after := underRedirects interpret redirects false
        (fun s => s.afterInside (endShell interpret (run interpret tested body s.inside)))
        { s with line := line }
      runPending interpret (after.checked tested)
  | .job statement, s =>
      background (fun s => endShell interpret (run interpret tested statement s)) s
  | .function name body, s =>
      { s with
        status := 0
        functions := (name, body) :: s.functions.filter fun entry => entry.1 ≠ name }

/-- Runs the first branch that admits a subject. -/
def runBranch (interpret : Interpreter) (tested : Bool) (subject : String) :
    Branches → State → State
  | .none, s => { s with status := 0 }
  | .branch patterns body others, s =>
      let (admitted, s) := admitsAny interpret subject patterns s
      if s.leaving.isSome then s
      else if admitted then run interpret tested body s
      else runBranch interpret tested subject others s

end

/-- Runs statements that may call functions and hold commands within words, down to a
depth. -/
def interpretTo : Nat → Interpreter
  | 0, _, _, s => s.fail "Maximum function recursion depth (1000) reached"
  | depth + 1, tested, statement, s => run (interpretTo depth) tested statement s

/-- The greatest depth of functions and of commands within words. -/
def depthLimit : Nat := 1001

/-- The number of a shell that is started by itself. -/
def shellNumber : Nat := 4242

/-- The shell before it has done anything. -/
def State.initial
    (files : Files) (environment : List (String × String)) (errand : Errand) : State where
  name := errand.name
  line := 1
  context := ""
  options := errand.options
  parameters := errand.parameters
  bindings := environment
  exported := environment.map Prod.fst
  fixed := []
  shadowed := []
  functions := []
  traps := []
  outerTraps := []
  pending := []
  loops := 0
  inFunction := false
  status := 0
  substitutionStatus := 0
  stdin := errand.stdin
  targets := [(1, .buffer 0), (2, .buffer 1)]
  buffers := [[], []]
  leaving := none
  files := files
  own := shellNumber
  number := shellNumber
  within := false
  clock := 0
  jobs := []
  nextNumber := shellNumber + 1
  stopping := none

/-- What the shell leaves behind. -/
def State.ran (s : State) : Ran where
  stdout := s.written 0
  stderr := s.written 1
  status := if s.leaving = some .killed then .signal else .code (Int32.ofNat s.status)

/-- Starts a shell with arguments. -/
def start
    (files : Files) (environment : List (String × String)) (stdin : List UInt8)
    (arguments : List String) : Ran :=
  match Errand.of files stdin arguments with
  | .error reason => ⟨[], bytesOf ("sh: 0: " ++ reason ++ "\n"), .code 2⟩
  | .ok errand =>
      let interpret := interpretTo depthLimit
      (endShell interpret
        (runText interpret false 1 errand.script (.initial files environment errand))).ran

end Shell
end Host
end MetricsScript
