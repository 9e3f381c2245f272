import MetricsScript.Host.Utilities.Fraction
import MetricsScript.Host.Utilities.Options
import MetricsScript.Host.Utilities.Work

/-!
# Programs that print many lines

One program prints numbers at equal distances, the other one the same line again and again.

This only serves to run tools on a machine; no theorem is about it.
-/

namespace MetricsScript
namespace Host

/-- The number of bytes or lines that are printed where nothing says how many are needed. -/
def longRun : Nat := 1048576

/-- A number as it was written. -/
structure Written where
  value : Int
  /-- The number of decimal places, by which the value is scaled. -/
  places : Nat
  /-- The number of characters. -/
  width : Nat
deriving DecidableEq, Repr

/-- The number of decimal places that are written in a number. -/
def writtenPlaces (cs : List Char) : Nat :=
  let behind := (cs.dropWhile (· != '.')).drop 1
  let power := (readPower (cs.dropWhile fun c => c != 'e' && c != 'E')).1
  (((behind.takeWhile Text.isDigit).length : Int) - power).toNat

/-- Reads a number. -/
def Written.read? (text : String) : Option Written :=
  let m := readMeasured text.toList
  if !m.found || !m.rest.isEmpty then none
  else
    let places := writtenPlaces text.toList
    let value := Int.ofNat (m.value.scaled 10 places).rounded
    let shown := skipSpaces text.toList
    let shown := if shown.head? = some '+' then shown.tail else shown
    some
      { value := if m.negative then -value else value
        places := places
        width := shown.length + (if shown.head? = some '.' then 1 else 0) }

/-- The value of a number with more places than it was written with. -/
def Written.scaledTo (w : Written) (places : Nat) : Int :=
  w.value * Int.pow 10 (places - w.places)

/-- The width of a number if it is written with so many places. -/
def Written.widthWith (w : Written) (places : Nat) : Nat :=
  w.width + places - w.places + (if w.places = 0 && 0 < places then 1 else 0) -
    (if 0 < w.places && places = 0 then 1 else 0)

/-- A number with so many places and at least so many characters. -/
def placedText (places width : Nat) (value : Int) : String :=
  let digits := withPoint places (digitsOf (places + 1) value.natAbs)
  let sign := if value < 0 then ['-'] else []
  String.ofList (sign ++ List.replicate (width - sign.length - digits.length) '0' ++ digits)

/-- Numbers at equal distances. -/
structure Sequence where
  first : Written
  step : Written
  last : Written

/-- The texts of the numbers, perhaps all of one width. -/
def Sequence.texts (q : Sequence) (padded : Bool) : List String :=
  let places := max q.first.places q.step.places
  let scale := max places q.last.places
  let first := q.first.scaledTo places
  let step := q.step.scaledTo places
  let way :=
    let distance := q.last.scaledTo scale - q.first.scaledTo scale
    if step < 0 then -distance else distance
  let count :=
    if way < 0 then 0 else way.toNat / ((q.step.scaledTo scale).natAbs) + 1
  let width := if padded then max (q.first.widthWith places) (q.last.widthWith places) else 0
  (List.range (min count longRun)).map fun (i : Nat) =>
    placedText places width (first + step * (i : Int))

/-- The options of the program that prints numbers. -/
def sequenceOptions : OptionTable where
  flags := ['w']
  valued := ['s']
  long := [("separator", 's'), ("equal-width", 'w')]
  mixed := false

/-- Whether an argument is a number with a sign and no option. -/
def isNegativeNumber (argument : String) : Bool :=
  match argument.toList with
  | '-' :: c :: _ => Text.isDigit c || c == '.'
  | _ => false

/-- Reads the operands of the program that prints numbers. -/
def Sequence.read (operands : List String) : Except String Sequence := do
  let number (text : String) : Except String Written :=
    match Written.read? text with
    | some w => .ok w
    | none => .error ("invalid floating point argument: '" ++ text ++ "'")
  let one : Written := ⟨1, 0, 1⟩
  match operands with
  | [] => .error "missing operand"
  | [last] => .ok ⟨one, one, ← number last⟩
  | [first, last] => .ok ⟨← number first, one, ← number last⟩
  | [first, step, last] =>
      let q : Sequence := ⟨← number first, ← number step, ← number last⟩
      if q.step.value = 0 then .error ("invalid Zero increment value: '" ++ step ++ "'") else .ok q
  | _ :: _ :: _ :: extra :: _ => .error ("extra operand '" ++ extra ++ "'")

/-- Prints numbers at equal distances. -/
def printSequence (arguments : List String) : Work :=
  let front := arguments.takeWhile fun argument => !isNegativeNumber argument
  let read : Except String (List GivenOption × Sequence) := do
    let (given, operands) ← sequenceOptions.read front
    .ok (given, ← Sequence.read (operands ++ arguments.drop front.length))
  match read with
  | .error reason => .misused "seq" reason
  | .ok (given, q) =>
      let texts := q.texts (isGiven given 'w')
      let separator :=
        ((given.reverse.find? fun option => option.letter = 's').map GivenOption.value).getD "\n"
      .print (bytesOf (if texts.isEmpty then "" else separator.intercalate texts ++ "\n"))

/-- The program that prints one line takes no options. -/
def repetitionOptions : OptionTable where
  flags := []
  valued := []
  long := []
  mixed := false

/-- Prints its operands in a line again and again. -/
def printRepeatedly (arguments : List String) : Work :=
  match repetitionOptions.read arguments with
  | .error reason => .misused "yes" reason
  | .ok (_, operands) =>
      let line := bytesOf (if operands.isEmpty then "y\n" else " ".intercalate operands ++ "\n")
      .print (List.replicate (longRun / line.length + 1) line).flatten

end Host
end MetricsScript
