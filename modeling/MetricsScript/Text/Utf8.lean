/-!
# UTF-8

A text is read from bytes one byte at a time, by a decoder that knows what it has read and
which bytes may come next.  Bytes that belong to no character are not lost without a trace:
every longest run of bytes that begins a character and is then broken off, and every byte
that cannot begin one, is read as one replacement character.
-/

namespace MetricsScript
namespace Text
namespace Utf8

/-- The character that stands for bytes that make up none. -/
def replacement : Char := '\uFFFD'

/-- A character of which the first bytes have been read. -/
structure Begun where
  /-- The bits read so far. -/
  value : Nat
  /-- How many bytes are missing after the next one. -/
  more : Nat
  /-- The least and the greatest value that the next byte may have. -/
  low : Nat
  high : Nat
deriving DecidableEq, Repr

/-- What a byte outside ASCII begins.  The bounds on the second byte leave out the encodings
that are longer than they need be, the surrogates, and what lies beyond the last code
point. -/
def begin? (b : Nat) : Option Begun :=
  if b < 0xC2 then none
  else if b < 0xE0 then some ⟨b - 0xC0, 0, 0x80, 0xBF⟩
  else if b < 0xF0 then
    some ⟨b - 0xE0, 1, if b = 0xE0 then 0xA0 else 0x80, if b = 0xED then 0x9F else 0xBF⟩
  else if b < 0xF5 then
    some ⟨b - 0xF0, 2, if b = 0xF0 then 0x90 else 0x80, if b = 0xF4 then 0x8F else 0xBF⟩
  else none

/-- A decoder in the middle of its work. -/
structure Decoder where
  /-- The characters read so far, the last one in front. -/
  read : List Char
  /-- The character under way. -/
  begun : Option Begun
  /-- All bytes so far have made up characters. -/
  sound : Bool
deriving DecidableEq, Repr

namespace Decoder

/-- The decoder before the first byte. -/
def fresh : Decoder := ⟨[], none, true⟩

/-- Reads a whole character. -/
def push (d : Decoder) (c : Char) : Decoder :=
  ⟨c :: d.read, none, d.sound⟩

/-- Reads bytes that make up no character. -/
def fault (d : Decoder) : Decoder :=
  ⟨replacement :: d.read, none, false⟩

/-- Reads a byte where a character has to begin. -/
def start (d : Decoder) (b : Nat) : Decoder :=
  if b < 0x80 then d.push (Char.ofNat b)
  else
    match begin? b with
    | some begun => { d with begun := some begun }
    | none => d.fault

/-- Reads one byte.  A byte that cannot go on with the character under way breaks it off and
may begin the next one. -/
def feed (d : Decoder) (byte : UInt8) : Decoder :=
  let b := byte.toNat
  match d.begun with
  | none => d.start b
  | some begun =>
      if begun.low ≤ b ∧ b ≤ begun.high then
        let value := begun.value * 64 + (b - 0x80)
        match begun.more with
        | 0 => d.push (Char.ofNat value)
        | more + 1 => { d with begun := some ⟨value, more, 0x80, 0xBF⟩ }
      else d.fault.start b

/-- Ends the text, and with it a character that is still under way. -/
def finish (d : Decoder) : Decoder :=
  match d.begun with
  | none => d
  | some _ => d.fault

end Decoder

/-- The decoder after all of a text. -/
def decoder (bytes : List UInt8) : Decoder :=
  (bytes.foldl Decoder.feed .fresh).finish

/-- The text that the bytes make up, with replacement characters where they make up none. -/
def decode (bytes : List UInt8) : String :=
  String.ofList (decoder bytes).read.reverse

/-- The text that the bytes make up, if every byte belongs to a character. -/
def decode? (bytes : List UInt8) : Option String :=
  if (decoder bytes).sound then some (decode bytes) else none

/-- The bytes of a text. -/
def encode (s : String) : List UInt8 :=
  s.toList.flatMap String.utf8EncodeChar

end Utf8
end Text
end MetricsScript
