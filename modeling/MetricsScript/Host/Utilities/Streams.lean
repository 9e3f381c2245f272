import MetricsScript.Host.Files
import MetricsScript.Host.Utilities.Number
import MetricsScript.Host.Utilities.Options
import MetricsScript.Host.Utilities.Work

/-!
# Programs that copy bytes

These programs read files or their standard input and copy what they read, all of it or the
beginning of it.

This only serves to run tools on a machine; no theorem is about it.
-/

namespace MetricsScript
namespace Host

/-- Where bytes come from. -/
inductive Source where
  | bytes (bytes : List UInt8)
  /-- Zeros without end. -/
  | zeros
deriving DecidableEq, Repr

/-- The number of bytes that are taken from a source without end where nothing says how many
are needed. -/
def endlessCount : Nat := 1048576

/-- All bytes of a source. -/
def Source.all : Source → List UInt8
  | .bytes content => content
  | .zeros => List.replicate endlessCount 0

/-- The source at the end of a path. -/
def Files.source (files : Files) (path : String) : Except SystemError Source :=
  match files.find path with
  | .ok (.device .zero) | .ok (.device .full) => .ok .zeros
  | .ok _ => (files.read path).map .bytes
  | .error cause => .error cause

/-- The source of a name, a hyphen standing for standard input. -/
def sourceOf (files : Files) (stdin : List UInt8) (name : String) : Except SystemError Source :=
  if name = "-" then .ok (.bytes stdin) else files.source name

/-- The message of an error without its number. -/
def reasonOf (cause : SystemError) : String :=
  String.ofList (((cause.message.toList.reverse.dropWhile fun c => c != '(').drop 2).reverse)

/-- The names of the sources to work through, standard input if there is none. -/
def namesOr (names : List String) : List String :=
  if names.isEmpty then ["-"] else names

/-- The work of a program, and what it leaves of its standard input. -/
structure Reading where
  work : Work
  stdin : List UInt8
deriving DecidableEq, Repr

/-- The bytes of sources one after the other.  A source that cannot be opened is complained of
and passed over. -/
def gather (files : Files) (stdin : List UInt8) : List String → Reading
  | [] => ⟨.print [], stdin⟩
  | name :: names =>
      let rest := gather files (if name = "-" then [] else stdin) names
      let work := rest.work
      match sourceOf files stdin name with
      | .ok source => { rest with work := { work with stdout := source.all ++ work.stdout } }
      | .error cause =>
          let complaint := "cat: " ++ name ++ ": " ++ reasonOf cause ++ "\n"
          { rest with work := ⟨work.stdout, bytesOf complaint ++ work.stderr, 1⟩ }

/-- The options of the program that copies its sources. -/
def catOptions : OptionTable where
  flags := ['A', 'b', 'e', 'E', 'n', 's', 't', 'T', 'u', 'v']
  valued := []
  long := [("show-all", 'A'), ("number-nonblank", 'b'), ("show-ends", 'E'), ("number", 'n'),
    ("squeeze-blank", 's'), ("show-tabs", 'T'), ("show-nonprinting", 'v')]
  mixed := true

/-- How lines are shown when they are copied. -/
structure LineStyle where
  numbered : Bool
  /-- Whether empty lines have no number. -/
  emptyUnnumbered : Bool
  /-- Whether only the first of neighbouring empty lines is shown. -/
  squeezed : Bool
  ends : Bool
  tabs : Bool
  /-- Whether bytes that cannot be printed are made visible. -/
  visible : Bool
deriving DecidableEq, Repr

/-- The style that options ask for. -/
def LineStyle.ofOptions (given : List GivenOption) : LineStyle :=
  let asked (letters : List Char) := letters.any (isGiven given)
  { numbered := asked ['n', 'b']
    emptyUnnumbered := asked ['b']
    squeezed := asked ['s']
    ends := asked ['A', 'e', 'E']
    tabs := asked ['A', 't', 'T']
    visible := asked ['A', 'e', 't', 'v'] }

/-- A byte of the lower half made visible. -/
def showLowByte (b : UInt8) : List UInt8 :=
  if b < 32 then [94, b + 64] else if b = 127 then [94, 63] else [b]

/-- A byte as it is shown within a line. -/
def LineStyle.showByte (style : LineStyle) (b : UInt8) : List UInt8 :=
  if b = 9 then if style.tabs then [94, 73] else [9]
  else if !style.visible then [b]
  else if b < 128 then showLowByte b
  else [77, 45] ++ showLowByte (b - 128)

/-- The number in front of a line. -/
def lineNumber (n : Nat) : List UInt8 :=
  let digits := bytesOf (toString n)
  List.replicate (6 - digits.length) 32 ++ digits ++ [9]

/-- The lines of some bytes.  The last one may have no end. -/
def linesOf (bytes : List UInt8) : List (List UInt8) :=
  bytes.foldr
    (fun b lines =>
      if b = 10 then [10] :: lines
      else
        match lines with
        | [] => [[b]]
        | line :: lines => (b :: line) :: lines)
    []

/-- Shows lines, of which the first bears a number.  The line before it may have been empty. -/
def LineStyle.show (style : LineStyle) (n : Nat) (afterEmpty : Bool) :
    List (List UInt8) → List UInt8
  | [] => []
  | line :: lines =>
      let empty := line == [10]
      if style.squeezed && empty && afterEmpty then style.show n true lines
      else
        let numbered := style.numbered && !(style.emptyUnnumbered && empty)
        let front := if numbered then lineNumber n else []
        let shown := line.flatMap fun b =>
          if b = 10 then if style.ends then [36, 10] else [10] else style.showByte b
        front ++ shown ++ style.show (if numbered then n + 1 else n) empty lines

/-- Copies its sources. -/
def cat (files : Files) (stdin : List UInt8) (arguments : List String) : Reading :=
  match catOptions.read arguments with
  | .error reason => ⟨.misused "cat" reason, stdin⟩
  | .ok (given, names) =>
      let reading := gather files stdin (namesOr names)
      let style := LineStyle.ofOptions given
      if given.all fun option => option.letter == 'u' then reading
      else
        let work := reading.work
        { reading with work := { work with stdout := style.show 1 false (linesOf work.stdout) } }

/-- How much of a source is copied. -/
structure Amount where
  count : Nat
  lines : Bool
  /-- Whether the count tells how much is left out at the end. -/
  butLast : Bool
deriving DecidableEq, Repr

/-- The length of the beginning of bytes that holds a number of newlines, added to a length. -/
def lengthOfLines (length : Nat) : Nat → List UInt8 → Nat
  | 0, _ => length
  | _, [] => length
  | n + 1, b :: bs => lengthOfLines (length + 1) (if b = 10 then n else n + 1) bs

/-- The beginning of a source. -/
def Amount.take (amount : Amount) : Source → List UInt8
  | .zeros => if amount.lines || amount.butLast then [] else List.replicate amount.count 0
  | .bytes content =>
      match amount.lines, amount.butLast with
      | false, false => content.take amount.count
      | false, true => content.take (content.length - amount.count)
      | true, false => content.take (lengthOfLines 0 amount.count content)
      | true, true =>
          let lines := linesOf content
          (lines.take (lines.length - amount.count)).flatten

/-- The number of bytes that are read at a time where lines are counted. -/
def blockLength : Nat := 8192

/-- What is left of bytes of which the beginning was copied.  Lines are read in blocks. -/
def Amount.rest (amount : Amount) (content : List UInt8) : List UInt8 :=
  if amount.butLast then []
  else if amount.lines then
    let needed := lengthOfLines 0 amount.count content
    content.drop ((needed + blockLength - 1) / blockLength * blockLength)
  else content.drop amount.count

/-- What is multiplied by the letters behind a count. -/
def multiplier? : List Char → Option Nat
  | [] => some 1
  | ['b'] => some 512
  | letter :: behind =>
      let powers := [('k', 1), ('K', 1), ('m', 2), ('M', 2), ('G', 3), ('T', 4), ('P', 5), ('E', 6)]
      match powers.lookup letter, behind with
      | some power, [] | some power, ['i', 'B'] => some (Nat.pow 1024 power)
      | some power, ['B'] => some (Nat.pow 1000 power)
      | _, _ => none

/-- The amount that a count stands for. -/
def readAmount (lines : Bool) (count : String) : Except String Amount :=
  let (butLast, cs) := match count.toList with
    | '-' :: cs => (true, cs)
    | '+' :: cs => (false, cs)
    | cs => (false, cs)
  let digits := cs.takeWhile Text.isDigit
  let invalid := "invalid number of " ++ (if lines then "lines" else "bytes") ++ ": '" ++
    String.ofList cs ++ "'"
  match digits, multiplier? (cs.drop digits.length) with
  | _ :: _, some factor =>
      let n := Text.digitsValue digits * factor
      if n < UInt64.size then .ok ⟨n, lines, butLast⟩
      else .error (invalid ++ ": Value too large for defined data type")
  | _, _ => .error invalid

/-- The options of the program that copies beginnings. -/
def headOptions : OptionTable where
  flags := ['q', 'v']
  valued := ['c', 'n']
  long := [("bytes", 'c'), ("lines", 'n'), ("quiet", 'q'), ("silent", 'q'), ("verbose", 'v')]
  mixed := true

/-- What the program that copies beginnings is asked for. -/
structure Beginning where
  amount : Amount
  /-- Whether a title stands over each source. -/
  titled : Bool
  names : List String
deriving DecidableEq, Repr

/-- What options ask for, the last of two that contradict each other.  A wrong count is a fault
of its own. -/
def beginningOf (given : List GivenOption) (names : List String) : Except String Beginning := do
  let amount ← given.foldlM
    (fun amount option =>
      if option.letter = 'c' then readAmount false option.value
      else if option.letter = 'n' then readAmount true option.value
      else .ok amount)
    ⟨10, true, false⟩
  let titled := given.foldl
    (fun titled option =>
      if option.letter = 'q' then false else if option.letter = 'v' then true else titled)
    (decide (1 < names.length))
  .ok ⟨amount, titled, names⟩

/-- A count behind a hyphen that is the first argument, and the unit that it counts. -/
def shortCount? (argument : String) : Option (List Char × List Char) :=
  match argument.toList with
  | '-' :: cs =>
      let digits := cs.takeWhile Text.isDigit
      if digits.isEmpty then none else some (digits, cs.drop digits.length)
  | _ => none

/-- Copies the beginning of a source under its title. -/
def copyBeginning (files : Files) (stdin : List UInt8) (b : Beginning) (first : Bool)
    (name : String) : Work :=
  let shown := if name = "-" then "standard input" else name
  let title := if b.titled then (if first then "" else "\n") ++ "==> " ++ shown ++ " <==\n" else ""
  match sourceOf files stdin name with
  | .ok source => .print (bytesOf title ++ b.amount.take source)
  | .error .isADirectory =>
      ⟨bytesOf title, bytesOf ("head: error reading '" ++ name ++ "': Is a directory\n"), 1⟩
  | .error cause =>
      .complain ("head: cannot open '" ++ name ++ "' for reading: " ++ reasonOf cause) 1

/-- Copies the beginnings of sources. -/
def copyBeginnings (files : Files) (b : Beginning) :
    List UInt8 → Bool → List String → Reading
  | stdin, _, [] => ⟨.print [], stdin⟩
  | stdin, first, name :: names =>
      let work := copyBeginning files stdin b first name
      let left := if name = "-" then b.amount.rest stdin else stdin
      let rest := copyBeginnings files b left (first && work.stdout.isEmpty) names
      { rest with
        work := ⟨work.stdout ++ rest.work.stdout, work.stderr ++ rest.work.stderr,
          max work.code rest.work.code⟩ }

/-- Copies the beginning of its sources. -/
def head (files : Files) (stdin : List UInt8) (arguments : List String) : Reading :=
  let arguments := match arguments with
    | first :: more =>
        match shortCount? first with
        | some (digits, ['c']) => "-c" :: String.ofList digits :: more
        | some (digits, []) => "-n" :: String.ofList digits :: more
        | _ => arguments
    | [] => []
  match (arguments.head?.bind shortCount?), headOptions.read arguments with
  | some (_, c :: _), _ =>
      ⟨.misused "head" ("invalid trailing option -- " ++ c.toString), stdin⟩
  | _, .error reason => ⟨.misused "head" reason, stdin⟩
  | _, .ok (given, names) =>
      match beginningOf given (namesOr names) with
      | .error reason => ⟨.complain ("head: " ++ reason) 1, stdin⟩
      | .ok b => copyBeginnings files b stdin true b.names

end Host
end MetricsScript
