import MetricsScript.Text.Decimal

/-!
# Numbers in several bases

A number is hexadecimal behind `0x`, octal behind another zero, and decimal otherwise.

This only serves to run tools on a machine; no theorem is about it.
-/

namespace MetricsScript
namespace Host

/-- The characters without the blanks in front. -/
def skipSpaces (cs : List Char) : List Char :=
  cs.dropWhile fun c => c == ' ' || c == '\t' || c == '\n'

/-- The value of a digit in the number systems up to the hexadecimal one. -/
def digitValue (c : Char) : Nat :=
  if Text.isDigit c then c.toNat - '0'.toNat
  else if 'a' ≤ c && c ≤ 'f' then c.toNat - 'a'.toNat + 10
  else if 'A' ≤ c && c ≤ 'F' then c.toNat - 'A'.toNat + 10
  else 16

/-- The value of digits to a base. -/
def valueOfDigits (base : Nat) (digits : List Char) : Nat :=
  digits.foldl (fun n c => base * n + digitValue c) 0

/-- Reads digits to a base. -/
def readDigits (base : Nat) (cs : List Char) : Nat × List Char :=
  let digits := cs.takeWhile fun c => digitValue c < base
  (valueOfDigits base digits, cs.drop digits.length)

/-- Reads a number without a sign. -/
def readNumber : List Char → Nat × List Char
  | '0' :: x :: c :: cs =>
      if (x = 'x' || x = 'X') && digitValue c < 16 then readDigits 16 (c :: cs)
      else readDigits 8 ('0' :: x :: c :: cs)
  | '0' :: cs => readDigits 8 ('0' :: cs)
  | cs => readDigits 10 cs

/-- A number at the front of a text, and the text behind it. -/
structure Numbered where
  value : Int
  /-- Whether there are digits. -/
  found : Bool
  rest : List Char
deriving DecidableEq, Repr

/-- Reads a number with blanks and a sign in front. -/
def readSigned (cs : List Char) : Numbered :=
  let start := skipSpaces cs
  let (negative, digits) := match start with
    | '-' :: cs => (true, cs)
    | '+' :: cs => (false, cs)
    | _ => (false, start)
  let (n, rest) := readNumber digits
  if rest.length < digits.length then
    ⟨if negative then -Int.ofNat n else Int.ofNat n, true, rest⟩
  else ⟨0, false, cs⟩

end Host
end MetricsScript
