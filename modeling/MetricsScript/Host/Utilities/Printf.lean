import MetricsScript.Host.Utilities.Fraction
import MetricsScript.Host.Utilities.Work

/-!
# Formatted printing

A format is printed with its conversions replaced by the arguments.  While arguments are
left over the format is used again; an argument that is missing is empty, or zero.  A shell
prints like this itself, and there is a program for it; they differ in the escapes that they
know and in what they say.

This only serves to run tools on a machine; no theorem is about it.
-/

namespace MetricsScript
namespace Host

/-- Who prints. -/
inductive Printer where
  /-- A shell, which begins what it says with a heading. -/
  | shell (heading : String)
  | program
deriving DecidableEq, Repr

/-- What ends printing before its time. -/
inductive FormatFault where
  /-- A conversion that the printer does not know. -/
  | unknown (conversion : String)
  /-- A conversion that the format breaks off. -/
  | brokenOff (conversion : String)
  | hexadecimalMissing
deriving DecidableEq, Repr

/-- What is wrong with an argument that should be a number. -/
inductive NumberFault where
  | notNumeric
  | incomplete
  | outOfRange
deriving DecidableEq, Repr

/-- What is said of an argument that is not the number it should be. -/
def NumberFault.message (fault : NumberFault) (argument : String) : Printer → String
  | .shell heading =>
      heading ++ "printf: " ++ argument ++ ": " ++ match fault with
        | .notNumeric => "expected numeric value\n"
        | .incomplete => "not completely converted\n"
        | .outOfRange => "Numerical result out of range\n"
  | .program =>
      "printf: '" ++ argument ++ "': " ++ match fault with
        | .notNumeric => "expected a numeric value\n"
        | .incomplete => "value not completely converted\n"
        | .outOfRange => "Numerical result out of range\n"

/-- What is said of a fault in a format. -/
def FormatFault.message (fault : FormatFault) : Printer → String
  | .shell heading =>
      heading ++ "printf: " ++ match fault with
        | .unknown conversion => conversion ++ ": invalid directive\n"
        | .brokenOff _ => "missing format character\n"
        | .hexadecimalMissing => "missing hexadecimal number in escape\n"
  | .program =>
      "printf: " ++ match fault with
        | .unknown conversion | .brokenOff conversion =>
            conversion ++ ": invalid conversion specification\n"
        | .hexadecimalMissing => "missing hexadecimal number in escape\n"

/-- A number that a format gives, or that an argument gives where the format has a star. -/
inductive Measure where
  | fixed (n : Nat)
  | argument
deriving DecidableEq, Repr

/-- A place in a format where an argument is put. -/
structure Conversion where
  flags : List Char
  width : Measure
  precision : Option Measure
  letter : Char
deriving DecidableEq, Repr

/-- A part of a format. -/
inductive FormatPart where
  | text (bytes : List UInt8)
  | conversion (conversion : Conversion)
  | fault (fault : FormatFault)
  /-- All output ends here. -/
  | stop
deriving DecidableEq, Repr

/-- Reads a width or a precision. -/
def readMeasure : List Char → Measure × List Char
  | '*' :: cs => (.argument, cs)
  | cs =>
      let digits := cs.takeWhile Text.isDigit
      (.fixed (Text.digitsValue digits), cs.drop digits.length)

/-- The letters of the conversions. -/
def conversionLetters : List Char :=
  ['s', 'b', 'c', 'd', 'i', 'u', 'o', 'x', 'X', 'f', 'F', 'e', 'E', 'g', 'G']

/-- Reads a conversion, the percent sign having been read.  The program passes over the letters
that tell the size of a number. -/
def readConversion (printer : Printer) (cs : List Char) : FormatPart × List Char :=
  let flags := cs.takeWhile fun c =>
    ['-', '0', '+', ' ', '#'].contains c || (c == '\'' && printer == .program)
  let (width, rest) := readMeasure (cs.drop flags.length)
  let (precision, rest) :=
    match rest with
    | '.' :: more =>
        let (precision, rest) := readMeasure more
        (some precision, rest)
    | _ => (none, rest)
  let rest := match printer with
    | .shell _ => rest
    | .program => rest.dropWhile fun c => ['h', 'l', 'L', 'j', 't', 'z'].contains c
  match rest with
  | letter :: behind =>
      if conversionLetters.contains letter then
        (.conversion ⟨flags, width, precision, letter⟩, behind)
      else
        let written := cs.take (cs.length - behind.length)
        (.fault (.unknown (String.ofList ('%' :: written))), behind)
  | [] => (.fault (.brokenOff (String.ofList ('%' :: cs))), [])

/-- The hexadecimal digits of a number, at least some of them. -/
def hexadecimal (least n : Nat) : List Char :=
  let digits := (Nat.toDigits 16 n).map Char.toUpper
  List.replicate (least - digits.length) '0' ++ digits

/-- Reads a character that is named by some hexadecimal digits.  One that is not in the basic
set is shown by its name. -/
def readNamed (letter : Char) (count : Nat) (cs : List Char) : Option (List UInt8) × List Char :=
  let digits := (cs.take count).takeWhile fun c => digitValue c < 16
  if digits.length < count then (none, cs)
  else
    let n := valueOfDigits 16 digits
    let shown := '\\' :: letter :: hexadecimal count n
    (some (if n < 128 then [UInt8.ofNat n] else bytesOf (String.ofList shown)), cs.drop count)

/-- The escapes that the program reads. -/
def programEscape : EscapeReader
  | 'x' :: cs =>
      let digits := (cs.take 2).takeWhile fun c => digitValue c < 16
      if digits.isEmpty then (none, cs)
      else (some [UInt8.ofNat (valueOfDigits 16 digits)], cs.drop digits.length)
  | 'u' :: cs => readNamed 'u' 4 cs
  | 'U' :: cs => readNamed 'U' 8 cs
  | '"' :: cs => (some [34], cs)
  | cs => shellEscape cs

/-- The escapes that a printer reads. -/
def Printer.escape : Printer → EscapeReader
  | .shell _ => shellEscape
  | .program => programEscape

/-- Reads a format.  The fuel is the number of characters. -/
def readFormat (printer : Printer) : Nat → List Char → List FormatPart
  | 0, _ => []
  | _, [] => []
  | fuel + 1, '%' :: '%' :: cs => .text [37] :: readFormat printer fuel cs
  | fuel + 1, '%' :: cs =>
      let (part, more) := readConversion printer cs
      part :: readFormat printer fuel more
  | fuel + 1, '\\' :: cs =>
      match printer, cs with
      | .program, 'c' :: _ => [.stop]
      | _, _ =>
          match printer.escape cs with
          | (some bytes, more) => .text bytes :: readFormat printer fuel more
          | (none, _) => [.fault .hexadecimalMissing]
  | fuel + 1, c :: cs => .text (bytesOfChar c) :: readFormat printer fuel cs

/-- Brings bytes to a width. -/
def pad (leftward : Bool) (width : Nat) (bytes : List UInt8) : List UInt8 :=
  let missing := List.replicate (width - bytes.length) 32
  if leftward then bytes ++ missing else missing ++ bytes

/-- What is put in front of a number that has a sign. -/
def signOf (c : Conversion) (negative : Bool) : String :=
  if negative then "-"
  else if c.flags.contains '+' then "+"
  else if c.flags.contains ' ' then " "
  else ""

/-- How long a number has to be. -/
structure Shape where
  leftward : Bool
  width : Nat
  precision : Option Nat
deriving DecidableEq, Repr

/-- The number of characters that zeros bring a number to behind its sign. -/
def Shape.zeroed (shape : Shape) (c : Conversion) (sign : String) : Nat :=
  if c.flags.contains '0' && !shape.leftward then shape.width - sign.length else 0

/-- Brings a number to its length. -/
def Shape.fill (shape : Shape) (sign : String) (least : Nat) (digits : List Char) :
    List UInt8 :=
  let zeros := List.replicate (least - digits.length) '0'
  pad shape.leftward shape.width (bytesOf (sign ++ String.ofList (zeros ++ digits)))

/-- The printed form of a whole number to a base. -/
def printNumber (c : Conversion) (shape : Shape) (base : Nat) (n : Int) : List UInt8 :=
  let digits := if n = 0 && shape.precision = some 0 then [] else Nat.toDigits base n.natAbs
  let digits := if c.letter = 'X' then digits.map Char.toUpper else digits
  let marked := c.flags.contains '#' && n ≠ 0
  let sign :=
    if c.letter = 'd' || c.letter = 'i' then signOf c (n < 0)
    else if marked && base = 16 then "0" ++ c.letter.toString
    else ""
  let least := shape.precision.getD (shape.zeroed c sign)
  shape.fill sign (if marked && base = 8 then max least (digits.length + 1) else least) digits

/-- The printed form of a number with a fraction. -/
def printFraction (c : Conversion) (shape : Shape) (negative : Bool) (f : Fraction) :
    List UInt8 :=
  let places := shape.precision.getD 6
  let text :=
    if c.letter = 'f' || c.letter = 'F' then fixedText f places
    else if c.letter = 'e' || c.letter = 'E' then scientificText f places
    else generalText f places
  let sign := signOf c negative
  shape.fill sign (shape.zeroed c sign)
    (if c.letter.isUpper then text.map Char.toUpper else text)

/-- The number of binary digits that a printer keeps of a fraction. -/
def Printer.bits : Printer → Nat
  | .shell _ => 53
  | .program => 64

/-- The number with a fraction that an argument is, whether it is negative, and what is wrong
with it. -/
def fractionOf (printer : Printer) (argument : String) :
    Bool × Fraction × Option NumberFault :=
  match argument.toList with
  | [] => (false, ⟨0, 1⟩, none)
  | '\x27' :: c :: _ | '\x22' :: c :: _ =>
      (false, ⟨((bytesOfChar c).headD 0).toNat, 1⟩, none)
  | cs =>
      let number := readMeasured cs
      (number.negative, number.value.withBits printer.bits,
        if !number.found then some .notNumeric
        else if !number.rest.isEmpty then some .incomplete
        else none)

/-- The number that an argument is, and what is wrong with it.  A quote in front of a character
asks for its code point. -/
def numberOf (unsigned : Bool) (argument : String) : Int × Option NumberFault :=
  match argument.toList with
  | [] => (0, none)
  | '\x27' :: c :: _ | '\x22' :: c :: _ => (Int.ofNat ((bytesOfChar c).headD 0).toNat, none)
  | cs =>
      let number := readSigned cs
      let most : Int := if unsigned then Int.pow 2 64 - 1 else Int.pow 2 63 - 1
      let least : Int := if unsigned then -(Int.pow 2 64 - 1) else -Int.pow 2 63
      let fits := least ≤ number.value && number.value ≤ most
      let value :=
        if fits then number.value else if number.value < 0 && !unsigned then least else most
      (if unsigned && value < 0 then value + Int.pow 2 64 else value,
        if !number.found then some .notNumeric
        else if !number.rest.isEmpty then some .incomplete
        else if fits then none
        else some .outOfRange)

/-- What the output of a conversion is. -/
structure Converted where
  bytes : List UInt8
  /-- Whether output goes on. -/
  goesOn : Bool
  fault : Option NumberFault

/-- The printed form of an argument. -/
def convert
    (printer : Printer) (c : Conversion) (width : Int) (precision : Option Nat)
    (argument : String) : Converted :=
  let leftward := c.flags.contains '-' || width < 0
  let cut (bytes : List UInt8) := match precision with
    | some n => bytes.take n
    | none => bytes
  let padded (bytes : List UInt8) := pad leftward width.natAbs bytes
  let shape : Shape := ⟨leftward, width.natAbs, precision⟩
  let number (base : Nat) (unsigned : Bool) : Converted :=
    let (n, fault) := numberOf unsigned argument
    ⟨printNumber c shape base n, true, fault⟩
  match c.letter with
  | 's' => ⟨padded (cut (bytesOf argument)), true, none⟩
  | 'b' =>
      let (bytes, goesOn) := unescape printer.escape argument
      ⟨padded (cut bytes), goesOn, none⟩
  | 'c' => ⟨padded ((bytesOf argument ++ [0]).take 1), true, none⟩
  | 'o' => number 8 true
  | 'u' => number 10 true
  | 'x' | 'X' => number 16 true
  | 'd' | 'i' => number 10 false
  | _ =>
      let (negative, f, fault) := fractionOf printer argument
      ⟨printFraction c shape negative f, true, fault⟩

/-- One pass over a format. -/
structure Pass where
  output : List UInt8
  complaints : List String
  /-- The message of what ended the pass before its time. -/
  broken : Option String
  remaining : List String
  goesOn : Bool

/-- The pass that is over at once. -/
def Pass.over (goesOn : Bool) (remaining : List String) : Pass :=
  ⟨[], [], none, remaining, goesOn⟩

/-- A measure, and the arguments that it leaves. -/
def Measure.take (m : Measure) (arguments : List String) : Int × List String :=
  match m with
  | .fixed n => (n, arguments)
  | .argument => ((numberOf false (arguments.headD "")).1, arguments.tail)

/-- Prints a format once. -/
def printOnce (printer : Printer) : List FormatPart → List String → Pass
  | [], arguments => .over true arguments
  | .stop :: _, _ => .over false []
  | .fault fault :: _, _ => { Pass.over false [] with broken := some (fault.message printer) }
  | .text bytes :: parts, arguments =>
      let pass := printOnce printer parts arguments
      { pass with output := bytes ++ pass.output }
  | .conversion c :: parts, arguments =>
      let (width, arguments) := c.width.take arguments
      let (precision, arguments) := match c.precision with
        | some m =>
            let (n, arguments) := m.take arguments
            (if n < 0 then none else some n.toNat, arguments)
        | none => (none, arguments)
      let argument := arguments.headD ""
      let converted := convert printer c width precision argument
      let pass :=
        if converted.goesOn then printOnce printer parts arguments.tail else .over false []
      { pass with
        output := converted.bytes ++ pass.output
        complaints :=
          (converted.fault.map fun fault => fault.message argument printer).toList ++
            pass.complaints }

/-- Prints a format until the arguments are used up.  The fuel is one more than their
number. -/
def printAll (printer : Printer) : Nat → List FormatPart → List String → Pass
  | 0, _, arguments => .over true arguments
  | fuel + 1, parts, arguments =>
      let pass := printOnce printer parts arguments
      if pass.goesOn && !pass.remaining.isEmpty && pass.remaining.length < arguments.length then
        let more := printAll printer fuel parts pass.remaining
        { more with
          output := pass.output ++ more.output
          complaints := pass.complaints ++ more.complaints }
      else pass

/-- What the program says of arguments that the format has no place for. -/
def excess (pass : Pass) : Printer → String
  | .shell _ => ""
  | .program =>
      match pass.goesOn, pass.remaining with
      | true, argument :: _ =>
          "printf: warning: ignoring excess arguments, starting with '" ++ argument ++ "'\n"
      | _, _ => ""

/-- Prints formatted arguments. -/
def printFormatted (printer : Printer) (format : String) (arguments : List String) : Work :=
  let parts := readFormat printer format.length format.toList
  let pass := printAll printer (arguments.length + 1) parts arguments
  { stdout := pass.output
    stderr := bytesOf
      (String.join pass.complaints ++ pass.broken.getD "" ++ excess pass printer)
    code :=
      match pass.broken, pass.complaints, printer with
      | some _, _, .shell _ => 2
      | none, [], _ => 0
      | _, _, _ => 1 }

/-- The letter of the option that an argument is.  Printing knows no options. -/
def optionLetter? (argument : String) : Option Char :=
  match argument.toList with
  | '-' :: c :: _ => some c
  | _ => none

/-- Prints formatted arguments, the first of which is the format. -/
def printf (printer : Printer) : List String → Work
  | "--" :: format :: arguments => printFormatted printer format arguments
  | [] | ["--"] =>
      match printer with
      | .shell heading => .complain (heading ++ "printf: usage: printf format [arg ...]") 2
      | .program => .misused "printf" "missing operand"
  | format :: arguments =>
      match printer, optionLetter? format with
      | .shell heading, some c =>
          .complain (heading ++ "printf: Illegal option -" ++ c.toString) 2
      | _, _ => printFormatted printer format arguments

end Host
end MetricsScript
