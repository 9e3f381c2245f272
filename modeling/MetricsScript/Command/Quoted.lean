import MetricsScript.Command.Expansion
import MetricsScript.Command.Token

/-!
# Quoted text

Single quotes keep everything up to the next single quote.  Inside double quotes a backslash
escapes only a double quote, a backslash and a dollar sign, and expansions are kept as parts
of their own.  Text that is never closed runs to the end.
-/

namespace MetricsScript
namespace Command

/-- Reads single-quoted text, its first quote having been read. -/
def readSingleQuoted (cs : List Char) : List Char × List Char :=
  (cs.takeWhile (· != '\''), (cs.dropWhile (· != '\'')).drop 1)

/-- One step of double-quoted text: a literal character or an expansion. -/
inductive QuotedPiece where
  | char (c : Char)
  | expansion (e : Expansion)
deriving DecidableEq, Repr

/-- The characters that a backslash escapes inside double quotes. -/
def isQuotedEscape (c : Char) : Bool :=
  c == '"' || c == '\\' || c == '$'

/-- Reads double-quoted text piece by piece, its first quote having been read. -/
def readDoubleQuoted : List Char → List QuotedPiece × List Char
  | [] => ([], [])
  | '\\' :: c :: cs =>
      if isQuotedEscape c then
        let (pieces, rest) := readDoubleQuoted cs
        (.char c :: pieces, rest)
      else
        let (pieces, rest) := readDoubleQuoted (c :: cs)
        (.char '\\' :: pieces, rest)
  | c :: cs =>
      if c = '"' then ([], cs)
      else if c = '$' then
        match h : readExpansion cs with
        | some (e, after) =>
            have := readExpansion_rest_lt h
            let (pieces, rest) := readDoubleQuoted after
            (.expansion e :: pieces, rest)
        | none =>
            let (pieces, rest) := readDoubleQuoted cs
            (.char '$' :: pieces, rest)
      else
        let (pieces, rest) := readDoubleQuoted cs
        (.char c :: pieces, rest)
termination_by cs => cs.length
decreasing_by
  all_goals
    simp only [List.length_cons]
    omega

/-- The part that an expansion makes. -/
def Expansion.toPart : Expansion → QuotedPart
  | .parameter name => .parameter (String.ofList name)
  | .substitution content => .substitution (String.ofList content)

/-- The parts with a literal character in front, which joins a literal part that is there. -/
def consLiteral (c : Char) : List QuotedPart → List QuotedPart
  | .literal text :: parts => .literal (String.singleton c ++ text) :: parts
  | parts => .literal (String.singleton c) :: parts

/-- Joins neighbouring literal characters into literal parts. -/
def joinPieces : List QuotedPiece → List QuotedPart
  | [] => []
  | .char c :: pieces => consLiteral c (joinPieces pieces)
  | .expansion e :: pieces => e.toPart :: joinPieces pieces

/-- The parts of double-quoted text; text without any piece has one empty literal part. -/
def QuotedPart.ofPieces (pieces : List QuotedPiece) : List QuotedPart :=
  if pieces.isEmpty then [.literal ""] else joinPieces pieces

/-- Reading single-quoted text never lengthens the text. -/
theorem readSingleQuoted_rest_le (cs : List Char) :
    (readSingleQuoted cs).2.length ≤ cs.length := by
  have := (List.dropWhile_sublist (· != '\'') (l := cs)).length_le
  simp [readSingleQuoted]; omega

/-- Reading double-quoted text never lengthens the text. -/
theorem readDoubleQuoted_rest_le (cs : List Char) :
    (readDoubleQuoted cs).2.length ≤ cs.length := by
  fun_induction readDoubleQuoted cs with
  | case5 cs e after h pieces rest hrec ih =>
      have := readExpansion_rest_lt h
      simp_all; omega
  | _ => simp_all <;> omega

end Command
end MetricsScript
