import MetricsScript.Host.Utilities.Escape
import MetricsScript.Host.Utilities.Options
import MetricsScript.Host.Utilities.Work
import MetricsScript.Text.Decimal

/-!
# Exchanging bytes

A program reads its standard input and exchanges the bytes of one set for those of another,
deletes them, or lets only one stand where several alike follow each other.

This only serves to run tools on a machine; no theorem is about it.
-/

namespace MetricsScript
namespace Host

/-- A class of bytes that has a name. -/
inductive ByteClass where
  | lower
  | upper
  | other (members : List UInt8)
deriving DecidableEq, Repr

/-- A piece of a set. -/
inductive SetPiece where
  | bytes (bytes : List UInt8)
  | named (members : ByteClass)
  /-- A byte as often as told, or as often as there is need. -/
  | repeated (byte : UInt8) (count : Option Nat)
deriving DecidableEq, Repr

/-- The bytes from one to another. -/
def byteRange (first last : Nat) : List UInt8 :=
  (List.range (last + 1 - first)).map fun i => UInt8.ofNat (first + i)

/-- The classes of bytes. -/
def byteClasses : List (String × ByteClass) :=
  let digits := byteRange 48 57
  let uppers := byteRange 65 90
  let lowers := byteRange 97 122
  let signs := byteRange 33 47 ++ byteRange 58 64 ++ byteRange 91 96 ++ byteRange 123 126
  let sorted (bytes : List UInt8) : ByteClass := .other (bytes.mergeSort fun a b => a ≤ b)
  [("lower", .lower), ("upper", .upper), ("digit", .other digits),
    ("alpha", sorted (uppers ++ lowers)), ("alnum", sorted (digits ++ uppers ++ lowers)),
    ("punct", sorted signs), ("space", .other (byteRange 9 13 ++ [32])),
    ("blank", .other [9, 32]), ("cntrl", .other (byteRange 0 31 ++ [127])),
    ("print", .other (byteRange 32 126)), ("graph", .other (byteRange 33 126)),
    ("xdigit", .other (digits ++ byteRange 65 70 ++ byteRange 97 102))]

/-- The bytes of a class. -/
def ByteClass.members : ByteClass → List UInt8
  | .lower => byteRange 97 122
  | .upper => byteRange 65 90
  | .other members => members

/-- A byte of a set, and whether a backslash was in front of it. -/
structure SetByte where
  byte : UInt8
  escaped : Bool
deriving DecidableEq, Repr

/-- Reads the escapes of a set.  A backslash before something else than an escape is taken
away.  The fuel is more than the number of characters. -/
def readSetBytes : Nat → List Char → List SetByte
  | 0, _ | _, [] => []
  | fuel + 1, '\\' :: c :: cs =>
      let (bytes, rest) := readEscape (c :: cs)
      let bytes := if bytes.length = 1 then bytes else bytes.tail
      bytes.map (⟨·, true⟩) ++ readSetBytes fuel rest
  | fuel + 1, c :: cs => (bytesOfChar c).map (⟨·, false⟩) ++ readSetBytes fuel cs

/-- Whether a byte of a set is a character that has a meaning of its own. -/
def SetByte.means (b : SetByte) (c : Char) : Bool :=
  b.byte.toNat == c.toNat && !b.escaped

/-- The text of bytes. -/
def textOfBytes (bytes : List SetByte) : String :=
  String.ofList (bytes.map fun b => Char.ofNat b.byte.toNat)

/-- Reads a class or a repetition, its first bracket having been read. -/
def readBracketed (bs : List SetByte) : Except String (Option (SetPiece × List SetByte)) :=
  match bs with
  | colon :: more =>
      let name := more.takeWhile fun b => !b.means ':'
      match colon.means ':', more.drop name.length with
      | true, _ :: bracket :: rest =>
          if bracket.means ']' then
            match byteClasses.lookup (textOfBytes name) with
            | some members => .ok (some (.named members, rest))
            | none => .error ("invalid character class '" ++ textOfBytes name ++ "'")
          else .ok none
      | _, _ =>
          match bs with
          | equal :: b :: equal2 :: bracket :: rest =>
              if equal.means '=' && equal2.means '=' && bracket.means ']' then
                .ok (some (.bytes [b.byte], rest))
              else .ok (readRepeated? bs)
          | _ => .ok (readRepeated? bs)
  | [] => .ok none
where
  /-- Reads a repetition. -/
  readRepeated? : List SetByte → Option (SetPiece × List SetByte)
    | b :: star :: more =>
        let digits := more.takeWhile fun d => 48 ≤ d.byte && d.byte ≤ 57
        match star.means '*', more.drop digits.length with
        | true, bracket :: rest =>
            if bracket.means ']' then
              let n := Text.digitsValue (textOfBytes digits).toList
              some (.repeated b.byte (if n = 0 then none else some n), rest)
            else none
        | _, _ => none
    | _ => none

/-- Reads a set.  The fuel is more than the number of bytes. -/
def readSetPieces : Nat → List SetByte → Except String (List SetPiece)
  | 0, _ | _, [] => .ok []
  | fuel + 1, b :: bs => do
      match ← if b.means '[' then readBracketed bs else .ok none with
      | some (piece, rest) => .ok (piece :: (← readSetPieces fuel rest))
      | none =>
          match bs with
          | hyphen :: last :: rest =>
              if hyphen.means '-' then
                if last.byte < b.byte then
                  .error ("range-endpoints of '" ++ textOfBytes [b, hyphen, last] ++
                    "' are in reverse collating sequence order")
                else
                  let range := byteRange b.byte.toNat last.byte.toNat
                  .ok (.bytes range :: (← readSetPieces fuel rest))
              else .ok (.bytes [b.byte] :: (← readSetPieces fuel bs))
          | _ => .ok (.bytes [b.byte] :: (← readSetPieces fuel bs))

/-- Reads a set. -/
def readSet (text : String) : Except String (List SetPiece) :=
  let bytes := readSetBytes (text.length + 1) text.toList
  readSetPieces (bytes.length + 1) bytes

/-- The bytes of a piece, as often as there is need where nothing is told. -/
def SetPiece.expand (need : Nat) : SetPiece → List UInt8
  | .bytes content => content
  | .named members => members.members
  | .repeated byte count => List.replicate (count.getD need) byte

/-- The bytes of a set that is to have a length.  What is repeated without a number fills it
up. -/
def expandSet (length : Nat) (pieces : List SetPiece) : List UInt8 :=
  let least := (pieces.flatMap (SetPiece.expand 0)).length
  pieces.flatMap (SetPiece.expand (length - least))

/-- The byte that stands in the place of another; the last one serves for all places that
are missing. -/
def exchanged (places values : List UInt8) (byte : UInt8) : UInt8 :=
  match places.reverse.idxOf? byte with
  | some i => (values[places.length - 1 - i]?).getD (values.getLast?.getD byte)
  | none => byte

/-- The bytes that are not in a set. -/
def complementOf (bytes : List UInt8) : List UInt8 :=
  (byteRange 0 255).filter fun b => !bytes.contains b

/-- Lets only one byte stand where several alike follow each other. -/
def squeeze (squeezed bytes : List UInt8) : List UInt8 :=
  bytes.foldr
    (fun b rest => if rest.head? = some b && squeezed.contains b then rest else b :: rest) []

/-- The options of the program. -/
def exchangeOptions : OptionTable where
  flags := ['c', 'C', 'd', 's', 't']
  valued := []
  long := [("complement", 'c'), ("delete", 'd'), ("squeeze-repeats", 's'),
    ("truncate-set1", 't')]
  mixed := false

/-- What is done with the bytes that are read. -/
structure Exchange where
  deleted : List UInt8
  places : List UInt8
  values : List UInt8
  squeezed : List UInt8
deriving DecidableEq, Repr

/-- Does it. -/
def Exchange.run (e : Exchange) (bytes : List UInt8) : List UInt8 :=
  squeeze e.squeezed
    ((bytes.filter fun b => !e.deleted.contains b).map (exchanged e.places e.values))

/-- The classes of letters in a set. -/
def letterClasses (pieces : List SetPiece) : Nat :=
  pieces.countP fun piece => piece == .named .lower || piece == .named .upper

/-- What is exchanged for what. -/
def exchanges (complement truncated : Bool) (first second : List SetPiece) :
    Except String (List UInt8 × List UInt8) := do
  let all := expandSet 0 first
  let places := if complement then complementOf all else all
  let values := expandSet places.length second
  if second.any (fun piece => match piece with
      | .named (.other _) => true
      | _ => false) then
    .error ("when translating, the only character classes that may appear in\n" ++
      "string2 are 'upper' and 'lower'")
  else if letterClasses first < letterClasses second then
    .error "misaligned [:upper:] and/or [:lower:] construct"
  else if values.isEmpty && !places.isEmpty && !truncated then
    .error "when not truncating set1, string2 must be non-empty"
  else .ok (if truncated then places.take values.length else places, values)

/-- What options and sets ask for. -/
def Exchange.of (given : List GivenOption) (first : String) (second : Option String) :
    Except String Exchange := do
  let complement := isGiven given 'c' || isGiven given 'C'
  let squeezing := isGiven given 's'
  let firstPieces ← readSet first
  let all := expandSet 0 firstPieces
  let all := if complement then complementOf all else all
  match isGiven given 'd', second with
  | true, none => .ok ⟨all, [], [], []⟩
  | true, some second => .ok ⟨all, [], [], expandSet 0 (← readSet second)⟩
  | false, none => .ok ⟨[], [], [], all⟩
  | false, some second =>
      let (places, values) ←
        exchanges complement (isGiven given 't') firstPieces (← readSet second)
      .ok ⟨[], places, values, if squeezing then values else []⟩

/-- Exchanges bytes, or deletes them. -/
def tr (stdin : List UInt8) (arguments : List String) : Work :=
  match exchangeOptions.read arguments with
  | .error reason => .misused "tr" reason
  | .ok (given, sets) =>
      let deleting := isGiven given 'd'
      let squeezing := isGiven given 's'
      let answer (first : String) (second : Option String) : Work :=
        match Exchange.of given first second with
        | .ok exchange => .print (exchange.run stdin)
        | .error reason => .complain ("tr: " ++ reason) 1
      match sets with
      | [] => .misused "tr" "missing operand"
      | [first] =>
          if deleting && squeezing then
            .misused "tr" ("missing operand after '" ++ first ++
              "'\nTwo strings must be given when both deleting and squeezing repeats.")
          else if deleting || squeezing then answer first none
          else
            .misused "tr" ("missing operand after '" ++ first ++
              "'\nTwo strings must be given when translating.")
      | [first, second] =>
          if deleting && !squeezing then
            .misused "tr" ("extra operand '" ++ second ++
              "'\nOnly one string may be given when deleting without squeezing repeats.")
          else answer first (some second)
      | _ :: _ :: third :: _ => .misused "tr" ("extra operand '" ++ third ++ "'")

end Host
end MetricsScript
