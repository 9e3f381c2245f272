import MetricsScript.Text.Blank

/-!
# Lines of a text

A newline ends a line.  `pieces` cuts a text at every newline and keeps what is between
them, empty pieces included; `lines` reads a text as finished lines, in which a carriage
return right before the newline belongs to the line's end.
-/

namespace MetricsScript
namespace Text

/-- Puts a character in front of the pieces of the text that follows it.  A newline opens a
piece of its own. -/
def addInFront (c : Char) : List (List Char) → List (List Char)
  | [] => if c = '\n' then [[], []] else [[c]]
  | piece :: more => if c = '\n' then [] :: piece :: more else (c :: piece) :: more

/-- The pieces of the characters between newlines, of which there is one more than there are
newlines. -/
def pieces (cs : List Char) : List (List Char) :=
  cs.foldr addInFront [[]]

@[simp]
theorem pieces_nil : pieces [] = [[]] := rfl

@[simp]
theorem pieces_cons (c : Char) (cs : List Char) :
    pieces (c :: cs) = addInFront c (pieces cs) := rfl

/-- There is always a first piece. -/
theorem pieces_ne_nil (cs : List Char) : pieces cs ≠ [] := by
  cases cs with
  | nil => simp
  | cons c cs => rw [pieces_cons]; unfold addInFront; split <;> split <;> simp

/-- A line without the carriage return at its end. -/
def withoutReturn (line : List Char) : List Char :=
  if line.getLast? = some '\r' then line.dropLast else line

/-- The lines that pieces make up: every piece but the last was ended by a newline, and an
empty last piece is no line. -/
def linesOfPieces : List (List Char) → List (List Char)
  | [] => []
  | [last] => if last.isEmpty then [] else [last]
  | piece :: next :: more => withoutReturn piece :: linesOfPieces (next :: more)

/-- The lines of a text, without their ends.  A carriage return that no newline follows is
an ordinary character. -/
def lines (s : String) : List String :=
  (linesOfPieces (pieces s.toList)).map String.ofList

end Text
end MetricsScript
