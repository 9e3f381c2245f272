import MetricsScript.Host.Utilities.Number

/-!
# Fractions in decimal notation

A number with a fraction is kept with as many binary digits as its printer can hold.  It is
printed with a number of decimal digits, of two that are alike near the even one.

This only serves to run tools on a machine; no theorem is about it.
-/

namespace MetricsScript
namespace Host

/-- A number that is not negative. -/
structure Fraction where
  numerator : Nat
  denominator : Nat
deriving DecidableEq, Repr

/-- The whole number that is nearest to a quotient, the even one of two. -/
def nearest (n d : Nat) : Nat :=
  let q := n / d
  let r := n % d
  if d < 2 * r || (2 * r = d && q % 2 = 1) then q + 1 else q

namespace Fraction

/-- The fraction times a power. -/
def scaled (f : Fraction) (base : Nat) (power : Int) : Fraction :=
  if 0 ≤ power then ⟨f.numerator * base.pow power.toNat, f.denominator⟩
  else ⟨f.numerator, f.denominator * base.pow (-power).toNat⟩

/-- The whole number that is nearest. -/
def rounded (f : Fraction) : Nat :=
  nearest f.numerator f.denominator

/-- The power of the first digit to a base. -/
def exponent (f : Fraction) (base : Nat) : Int :=
  let digits (n : Nat) : Int := (Nat.toDigits base n).length
  let estimate := digits f.numerator - digits f.denominator
  let g := f.scaled base (-estimate)
  if g.denominator ≤ g.numerator then estimate else estimate - 1

/-- The nearest number that has a count of binary digits. -/
def withBits (f : Fraction) (bits : Nat) : Fraction :=
  if f.numerator = 0 then f
  else
    let shift := (bits : Int) - 1 - f.exponent 2
    Fraction.scaled ⟨(f.scaled 2 shift).rounded, 1⟩ 2 (-shift)

end Fraction

/-- A run of digits, at least so many. -/
def digitsOf (least n : Nat) : List Char :=
  let digits := Nat.toDigits 10 n
  List.replicate (least - digits.length) '0' ++ digits

/-- Puts a point before the last digits. -/
def withPoint (places : Nat) (digits : List Char) : List Char :=
  if places = 0 then digits
  else digits.take (digits.length - places) ++ '.' :: digits.drop (digits.length - places)

/-- A number with so many places behind the point. -/
def fixedText (f : Fraction) (places : Nat) : List Char :=
  withPoint places (digitsOf (places + 1) (f.scaled 10 places).rounded)

/-- The digits of a number, one of them before the point, and the power of ten behind them. -/
def powerDigits (f : Fraction) (places : Nat) : Nat × Int :=
  if f.numerator = 0 then (0, 0)
  else
    let power := f.exponent 10
    let n := (f.scaled 10 (places - power)).rounded
    if n < Nat.pow 10 (places + 1) then (n, power) else (n / 10, power + 1)

/-- A power of ten, as it stands behind digits. -/
def powerText (power : Int) : List Char :=
  'e' :: (if power < 0 then '-' else '+') :: digitsOf 2 power.natAbs

/-- A number with one digit before the point and a power of ten. -/
def scientificText (f : Fraction) (places : Nat) : List Char :=
  let (n, power) := powerDigits f places
  withPoint places (digitsOf (places + 1) n) ++ powerText power

/-- Digits without the zeros at the end of their places. -/
def trimmedPlaces (cs : List Char) : List Char :=
  if cs.contains '.' then
    let kept := (cs.reverse.dropWhile (· == '0')).reverse
    if kept.getLast? = some '.' then kept.dropLast else kept
  else cs

/-- A number with so many digits in the shorter of the two notations. -/
def generalText (f : Fraction) (count : Nat) : List Char :=
  let count := max count 1
  let (n, power) := powerDigits f (count - 1)
  if -4 ≤ power && power < count then
    trimmedPlaces (fixedText f ((count : Int) - 1 - power).toNat)
  else trimmedPlaces (withPoint (count - 1) (digitsOf count n)) ++ powerText power

/-- A number with a fraction at the front of a text. -/
structure Measured where
  negative : Bool
  value : Fraction
  /-- Whether there are digits. -/
  found : Bool
  rest : List Char
deriving DecidableEq, Repr

/-- Reads a power of ten. -/
def readPower (cs : List Char) : Int × List Char :=
  match cs with
  | e :: behind =>
      let (negative, digits) := match behind with
        | '-' :: more => (true, more)
        | '+' :: more => (false, more)
        | _ => (false, behind)
      let run := digits.takeWhile Text.isDigit
      if (e = 'e' || e = 'E') && !run.isEmpty then
        let n := Int.ofNat (min (Text.digitsValue run) 5000)
        (if negative then -n else n, digits.drop run.length)
      else (0, cs)
  | [] => (0, [])

/-- Reads a number with blanks and a sign in front. -/
def readMeasured (cs : List Char) : Measured :=
  let start := skipSpaces cs
  let (negative, digits) := match start with
    | '-' :: more => (true, more)
    | '+' :: more => (false, more)
    | _ => (false, start)
  let whole := digits.takeWhile Text.isDigit
  let (places, behind) := match digits.drop whole.length with
    | '.' :: more => (more.takeWhile Text.isDigit, more.dropWhile Text.isDigit)
    | more => ([], more)
  if whole.isEmpty && places.isEmpty then ⟨false, ⟨0, 1⟩, false, cs⟩
  else
    let (power, rest) := readPower behind
    let value := Fraction.scaled ⟨Text.digitsValue (whole ++ places), 1⟩ 10
      (power - (places.length : Int))
    ⟨negative, value, true, rest⟩

end Host
end MetricsScript
