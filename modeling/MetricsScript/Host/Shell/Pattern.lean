/-!
# Patterns

A pattern admits texts.  An asterisk in it admits any text, a question mark any character, and
brackets any of the characters in them.

The shell only serves to run tools on a machine; no theorem is about it.
-/

namespace MetricsScript
namespace Host
namespace Shell

/-- A piece of a pattern. -/
inductive PatternPiece where
  | one (c : Char)
  | any
  | many
  /-- A character from one of the ranges, or from none of them. -/
  | set (negated : Bool) (ranges : List (Char × Char))
deriving DecidableEq, Repr

/-- A pattern. -/
abbrev Pattern := List PatternPiece

/-- A character of a pattern, and whether it stands for itself. -/
structure Marked where
  char : Char
  quoted : Bool
deriving DecidableEq, Repr

/-- Whether a character has the special meaning of another one. -/
def Marked.means (m : Marked) (c : Char) : Bool :=
  m.char == c && !m.quoted

/-- Reads the ranges of a set up to the bracket that closes it.  The first character of the set
cannot close it. -/
def readRanges (first : Bool) : List Marked → Option (List (Char × Char) × List Marked)
  | [] => none
  | m :: hyphen :: last :: ms =>
      if m.means ']' && !first then some ([], hyphen :: last :: ms)
      else if hyphen.means '-' && !last.means ']' then
        (readRanges false ms).map fun (ranges, rest) => ((m.char, last.char) :: ranges, rest)
      else
        (readRanges false (hyphen :: last :: ms)).map fun (ranges, rest) =>
          ((m.char, m.char) :: ranges, rest)
  | m :: ms =>
      if m.means ']' && !first then some ([], ms)
      else
        (readRanges false ms).map fun (ranges, rest) => ((m.char, m.char) :: ranges, rest)

/-- Reads a set, its first bracket having been read. -/
def readSet? (ms : List Marked) : Option (PatternPiece × List Marked) :=
  match ms with
  | m :: rest =>
      if m.means '!' then
        (readRanges true rest).map fun (ranges, rest) => (.set true ranges, rest)
      else (readRanges true ms).map fun (ranges, rest) => (.set false ranges, rest)
  | [] => none

/-- The pattern that marked characters make up.  The fuel is their number. -/
def readPattern : Nat → List Marked → Pattern
  | 0, _ | _, [] => []
  | fuel + 1, m :: ms =>
      if m.means '*' then .many :: readPattern fuel ms
      else if m.means '?' then .any :: readPattern fuel ms
      else
        match if m.means '[' then readSet? ms else none with
        | some (set, rest) => set :: readPattern fuel rest
        | none => .one m.char :: readPattern fuel ms

/-- Whether a piece that stands for one character admits it. -/
def PatternPiece.admits (c : Char) : PatternPiece → Bool
  | .one d => c == d
  | .any | .many => true
  | .set negated ranges => (ranges.any fun range => range.1 ≤ c && c ≤ range.2) != negated

/-- Whether a pattern admits a text. -/
def Pattern.admits : Pattern → List Char → Bool
  | [], cs => cs.isEmpty
  | .many :: pieces, cs =>
      (List.range (cs.length + 1)).any fun n => Pattern.admits pieces (cs.drop n)
  | _ :: _, [] => false
  | piece :: pieces, c :: cs => piece.admits c && Pattern.admits pieces cs

/-- Cuts off the shortest or the longest beginning that a pattern admits. -/
def Pattern.cutFront (p : Pattern) (longest : Bool) (cs : List Char) : List Char :=
  let counts := (List.range (cs.length + 1)).filter fun n => p.admits (cs.take n)
  match if longest then counts.getLast? else counts.head? with
  | some n => cs.drop n
  | none => cs

/-- Cuts off the shortest or the longest end that a pattern admits. -/
def Pattern.cutBack (p : Pattern) (longest : Bool) (cs : List Char) : List Char :=
  let counts := (List.range (cs.length + 1)).filter fun n => p.admits (cs.drop n)
  match if longest then counts.head? else counts.getLast? with
  | some n => cs.take n
  | none => cs

end Shell
end Host
end MetricsScript
