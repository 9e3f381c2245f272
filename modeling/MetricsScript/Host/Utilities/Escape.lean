import MetricsScript.Text.Utf8

/-!
# Backslash escapes of printed text

The programs that print their arguments read a backslash and what follows it as one byte.

This only serves to run tools on a machine; no theorem is about it.
-/

namespace MetricsScript
namespace Host

/-- The bytes of a text. -/
def bytesOf (s : String) : List UInt8 :=
  Text.Utf8.encode s

/-- The bytes of one character. -/
def bytesOfChar (c : Char) : List UInt8 :=
  String.utf8EncodeChar c

/-- The octal digits. -/
def isOctalDigit (c : Char) : Bool :=
  '0' ≤ c && c ≤ '7'

/-- The byte that octal digits stand for. -/
def octalByte (digits : List Char) : UInt8 :=
  UInt8.ofNat (digits.foldl (fun n c => 8 * n + (c.toNat - '0'.toNat)) 0)

/-- The byte of a letter that stands for a control character. -/
def controlLetter? : Char → Option UInt8
  | 'a' => some 7
  | 'b' => some 8
  | 't' => some 9
  | 'n' => some 10
  | 'v' => some 11
  | 'f' => some 12
  | 'r' => some 13
  | 'e' => some 27
  | '\\' => some 92
  | _ => none

/-- Reads what follows a backslash: the bytes it stands for, and the rest.  At most three
octal digits make a byte.  A backslash before anything else stands for itself. -/
def readEscape : List Char → List UInt8 × List Char
  | [] => ([92], [])
  | c :: cs =>
      match controlLetter? c with
      | some byte => ([byte], cs)
      | none =>
          if isOctalDigit c then
            let digits := c :: (cs.take 2).takeWhile isOctalDigit
            ([octalByte digits], (c :: cs).drop digits.length)
          else (92 :: bytesOfChar c, cs)

/-- How a program reads what follows a backslash.  The bytes that come of it may be missing
because the escape is at fault. -/
abbrev EscapeReader := List Char → Option (List UInt8) × List Char

/-- A text with its escapes read, and whether it goes on after them: `\c` ends all output.
An octal number may have a zero in front of its three digits. -/
def unescapeText (escape : EscapeReader) : Nat → List Char → List UInt8 × Bool
  | _, [] => ([], true)
  | 0, _ => ([], true)
  | _ + 1, '\\' :: 'c' :: _ => ([], false)
  | fuel + 1, '\\' :: '0' :: cs =>
      let digits := (cs.take 3).takeWhile isOctalDigit
      let (rest, goesOn) := unescapeText escape fuel (cs.drop digits.length)
      (octalByte digits :: rest, goesOn)
  | fuel + 1, '\\' :: cs =>
      let (bytes, more) := escape cs
      let (rest, goesOn) := unescapeText escape fuel more
      (bytes.getD [] ++ rest, goesOn)
  | fuel + 1, c :: cs =>
      let (rest, goesOn) := unescapeText escape fuel cs
      (bytesOfChar c ++ rest, goesOn)

/-- The escapes that a shell reads. -/
def shellEscape : EscapeReader := fun cs =>
  let (bytes, rest) := readEscape cs
  (some bytes, rest)

/-- A text with its escapes read, and whether it goes on after them. -/
def unescape (escape : EscapeReader) (s : String) : List UInt8 × Bool :=
  unescapeText escape s.length s.toList

end Host
end MetricsScript
