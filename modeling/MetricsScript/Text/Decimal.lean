/-!
# Decimal numerals

A numeral is a non-empty run of the ASCII digits; a signed numeral may carry one sign.
-/

namespace MetricsScript
namespace Text

/-- The ten ASCII digits. -/
def isDigit (c : Char) : Bool :=
  '0' ≤ c && c ≤ '9'

/-- The value of a run of digits, read from the most significant one. -/
def digitsValue (cs : List Char) : Nat :=
  cs.foldl (fun n c => 10 * n + (c.toNat - '0'.toNat)) 0

/-- The value of a numeral; nothing for a text that is not one. -/
def numeral? (cs : List Char) : Option Nat :=
  if !cs.isEmpty && cs.all isDigit then some (digitsValue cs) else none

/-- The value of a numeral with at most one sign in front. -/
def signedNumeral? : List Char → Option Int
  | '+' :: cs => (numeral? cs).map Int.ofNat
  | '-' :: cs => (numeral? cs).map fun n => -Int.ofNat n
  | cs => (numeral? cs).map Int.ofNat

end Text
end MetricsScript
