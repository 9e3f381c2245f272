import MetricsScript.Text.Width

/-!
# Paths

A path is written as names between slashes.  A slash in front starts at the root; a slash at
the end asks for a directory.  Empty names and single dots lead nowhere, and two dots lead
back to the parent.
-/

namespace MetricsScript
namespace Host

/-- One step along a path. -/
inductive Step where
  /-- To the entry of that name. -/
  | enter (name : String)
  /-- To where one is. -/
  | stay
  /-- To the directory above. -/
  | up
deriving DecidableEq, Repr

/-- A path that has been read. -/
structure Path where
  absolute : Bool
  steps : List Step
  /-- The path ends in a slash. -/
  closed : Bool
deriving DecidableEq, Repr

/-- The names between slashes, empty ones included. -/
def slashNames (cs : List Char) : List (List Char) :=
  cs.foldr
    (fun c names =>
      match names with
      | [] => [[c]]
      | name :: more => if c = '/' then [] :: name :: more else (c :: name) :: more)
    [[]]

/-- The step that a name asks for. -/
def stepOf (name : List Char) : Step :=
  if name = ['.'] then .stay
  else if name = ['.', '.'] then .up
  else .enter (String.ofList name)

/-- Reads a path. -/
def Path.parse (s : String) : Path :=
  let cs := s.toList
  { absolute := cs.head? = some '/'
    steps := ((slashNames cs).filter fun name => !name.isEmpty).map stepOf
    closed := cs.getLast? = some '/' }

/-- The greatest number of bytes in the name of a file. -/
def longestName : Nat := 255

/-- The greatest number of bytes in a path. -/
def longestPath : Nat := 4095

/-- The number of bytes that a text takes. -/
def width (s : String) : Nat :=
  Text.byteLength s.toList

end Host
end MetricsScript
