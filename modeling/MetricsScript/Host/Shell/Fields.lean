import MetricsScript.Host.Shell.Arithmetic
import MetricsScript.Host.Shell.Home
import MetricsScript.Host.Shell.Jobs
import MetricsScript.Host.Shell.Pattern
import MetricsScript.Host.Shell.Reader

/-!
# Fields

The words of a command are expanded to fields before it is run.  What they expand to depends
on the state, and an expansion may change it.

The shell only serves to run tools on a machine; no theorem is about it.
-/

namespace MetricsScript
namespace Host
namespace Shell

/-- How a statement changes the state.  The flag tells whether it is allowed to fail. -/
abbrev Interpreter := Bool → Statement → State → State

/-- Runs a script as far as it can be read. -/
def runScript (interpret : Interpreter) (tested : Bool) (script : Script) (s : State) : State :=
  let s := script.commands.foldl
    (fun s command => if s.leaving.isSome then s else interpret tested command s) s
  match script.broken with
  | some broken =>
      if s.leaving.isSome then s
      else { s with line := broken.line }.fail ("Syntax error: " ++ broken.fault.message)
  | none => if script.commands.isEmpty then { s with status := 0 } else s

/-- Runs the text of a script that begins on a line. -/
def runText (interpret : Interpreter) (tested : Bool) (line : Nat) (text : String) (s : State) :
    State :=
  runScript interpret tested (readScript line text) s

/-- A piece of a word that has been expanded. -/
inductive Piece where
  /-- Text that was quoted. -/
  | fixed (text : String)
  /-- Text that stays in one field, but is not quoted. -/
  | bare (text : String)
  /-- Text that separators cut into fields. -/
  | loose (text : String)
  /-- A field ends here. -/
  | cut
deriving DecidableEq, Repr

/-- The text of a piece. -/
def Piece.text : Piece → String
  | .fixed text | .bare text | .loose text => text
  | .cut => " "

/-- The text that pieces make up where no fields are wanted. -/
def textOf (pieces : List Piece) : String :=
  String.join (pieces.map Piece.text)

/-- The pattern that pieces make up. -/
def patternOf (pieces : List Piece) : Pattern :=
  let marked := pieces.flatMap fun piece =>
    let quoted := match piece with
      | .fixed _ => true
      | _ => false
    piece.text.toList.map fun c => (⟨c, quoted⟩ : Marked)
  readPattern (marked.length + 1) marked

/-- Fields under construction. -/
structure Fields where
  finished : List String
  current : Option String
deriving DecidableEq, Repr

/-- Ends the field under construction. -/
def Fields.close (f : Fields) : Fields :=
  match f.current with
  | some text => ⟨text :: f.finished, none⟩
  | none => f

/-- Adds text to the field under construction. -/
def Fields.add (f : Fields) (text : String) : Fields :=
  { f with current := some (f.current.getD "" ++ text) }

/-- Whether a character is a blank. -/
def isBlank (c : Char) : Bool :=
  c == ' ' || c == '\t' || c == '\n'

/-- Adds a character of text that separators cut into fields.  A separator that is no blank
ends a field even if it is empty. -/
def Fields.addLoose (separators : String) (f : Fields) (c : Char) : Fields :=
  if !separators.toList.contains c then f.add c.toString
  else if isBlank c then f.close
  else (f.add "").close

/-- Adds a piece. -/
def Fields.addPiece (separators : String) (f : Fields) : Piece → Fields
  | .fixed text | .bare text => f.add text
  | .loose text => text.toList.foldl (Fields.addLoose separators) f
  | .cut => f.close

/-- The fields that pieces make up. -/
def fieldsOf (separators : String) (pieces : List Piece) : List String :=
  (pieces.foldl (Fields.addPiece separators) ⟨[], none⟩).close.finished.reverse

/-- The piece that a value makes. -/
def pieceOf (quoted : Bool) (value : String) : Piece :=
  if quoted then .fixed value else .loose value

/-- The pieces of several values, each in a field of its own. -/
def separatePieces (quoted : Bool) : List String → List Piece
  | [] => []
  | [last] => [pieceOf quoted last]
  | first :: more => pieceOf quoted first :: .cut :: separatePieces quoted more

/-- Looks a parameter up.  A strict shell ends where there is none. -/
def State.lookUp (s : State) (name : String) : String × State :=
  match s.value? name with
  | some value => (value, s)
  | none =>
      if s.options.strict then
        ("", s.fail (name ++ ": parameter not set"))
      else ("", s)

/-- Expands a parameter. -/
def expandParameter (quoted : Bool) (name : String) (s : State) : List Piece × State :=
  if name = "@" || (name = "*" && !quoted) then (separatePieces quoted s.parameters, s)
  else
    let (value, s) := s.lookUp name
    ([pieceOf quoted value], s)

/-- The output of a script without the line ends at its end.  Its status does not take the
place of that of the last command. -/
def outputOf (interpret : Interpreter) (script : String) (s : State) : String × State :=
  let (bytes, after) := caught (runText interpret false s.line script) s
  let text := Text.Utf8.decode (bytes.filter (· != 0))
  (String.ofList (text.toList.reverse.dropWhile (· == '\n')).reverse,
    { after with status := s.status, substitutionStatus := after.status })

/-- Calculates. -/
def State.calculate (s : State) (expression : String) : String × State :=
  match arithmetic s.value? expression with
  | .ok (n, given) =>
      (toString n, given.foldr (fun entry s => s.assign entry.1 (toString entry.2)) s)
  | .error fault => ("", s.fail (fault.message expression))

/-- Whether a value is there. -/
def isPresent (empty : Bool) : Option String → Bool
  | none => false
  | some value => !(empty && value.isEmpty)

/-- Expands a parameter whose value is changed.  The operand is expanded only if it is
needed. -/
def expandChanged
    (quoted : Bool) (name : String) (change : Change) (bareOperand : Bool)
    (operand : Unit → List Piece × State) (s : State) : List Piece × State :=
  let value := s.value? name
  let whole (pieces : List Piece) := if quoted && pieces.isEmpty then [.fixed ""] else pieces
  let present (_ : Unit) : List Piece × State :=
    let (pieces, s) := expandParameter quoted name s
    (whole pieces, s)
  let cutBy (cut : Pattern → List Char → List Char) : List Piece × State :=
    let (text, after) := s.lookUp name
    if after.leaving.isSome then ([], after)
    else
      let (pieces, after) := operand ()
      ([pieceOf quoted (String.ofList (cut (patternOf pieces) text.toList))], after)
  match change with
  | .fallback empty =>
      if isPresent empty value then present ()
      else
        let (pieces, s) := operand ()
        (whole pieces, s)
  | .assign empty =>
      if isPresent empty value then present ()
      else
        let (pieces, s) := operand ()
        ([pieceOf quoted (textOf pieces)], s.assign name (textOf pieces))
  | .alternative empty =>
      if isPresent empty value then
        let (pieces, s) := operand ()
        (whole pieces, s)
      else (whole [], s)
  | .demand empty =>
      if isPresent empty value then present ()
      else
        let (pieces, s) := operand ()
        let reason :=
          if bareOperand then
            if empty then "parameter not set or null" else "parameter not set"
          else textOf pieces
        ([], s.fail (name ++ ": " ++ reason))
  | .cutFront longest => cutBy fun pattern => pattern.cutFront longest
  | .cutBack longest => cutBy fun pattern => pattern.cutBack longest

mutual

/-- Expands a part of a word.  Where `loose` is true, text without quotes falls into fields
too. -/
def expandPart (interpret : Interpreter) (loose : Bool) : Part → State → List Piece × State
  | .text quoted text, s =>
      ([if quoted then .fixed text else if loose then .loose text else .bare text], s)
  | .parameter quoted name, s => expandParameter quoted name s
  | .size name, s =>
      let (value, s) := s.lookUp name
      ([.fixed (toString value.length)], s)
  | .changed quoted name change operand, s =>
      expandChanged quoted name change operand.isEmpty
        (fun _ => expandParts interpret (!quoted) operand s) s
  | .output quoted script, s =>
      let (text, s) := outputOf interpret script s
      ([pieceOf quoted text], s)
  | .arithmetic quoted expression, s =>
      let (pieces, s) := expandParts interpret false expression s
      let (text, s) := s.calculate (textOf pieces)
      ([pieceOf quoted text], s)
  | .unknown, s => ([], s.fail "Bad substitution")

/-- Expands the parts of a word, up to one that ends the shell. -/
def expandParts (interpret : Interpreter) (loose : Bool) :
    List Part → State → List Piece × State
  | [], s => ([], s)
  | part :: parts, s =>
      let (first, s) := expandPart interpret loose part s
      if s.leaving.isSome then (first, s)
      else
        let (rest, s) := expandParts interpret loose parts s
        (first ++ rest, s)

end

/-- The name and the value in a text that assigns a value. -/
def splitAssignment? (text : String) : Option (String × String) :=
  let cs := text.toList
  let name := String.ofList (cs.takeWhile (· != '='))
  match cs.dropWhile (· != '=') with
  | _ :: value => if isName name then some (name, String.ofList value) else none
  | [] => none

/-- The name and the value that a word assigns, if it is an assignment. -/
def assignment? : Word → Option (String × Word)
  | .text false text :: parts =>
      (splitAssignment? text).map fun (name, value) =>
        (name, if value.isEmpty then parts else .text false value :: parts)
  | _ => none

/-- Expands a word to one text.  The flag tells whether it is the value of an assignment. -/
def expandText (interpret : Interpreter) (assigned : Bool) (word : Word) (s : State) :
    String × State :=
  let (pieces, s) := expandParts interpret false (s.atHome assigned word) s
  (textOf pieces, s)

/-- Expands a word to fields.  An assignment is one field where a command declares
variables. -/
def expandWord (interpret : Interpreter) (declares : Bool) (word : Word) (s : State) :
    List String × State :=
  match if declares then assignment? word else none with
  | some (name, value) =>
      let (text, s) := expandText interpret true value s
      ([name ++ "=" ++ text], s)
  | none =>
      let (pieces, after) := expandParts interpret false (s.atHome false word) s
      (fieldsOf after.separators pieces, after)

/-- Expands words to fields, up to one that ends the shell. -/
def expandWords (interpret : Interpreter) (declares : Bool) :
    List Word → State → List String × State
  | [], s => ([], s)
  | word :: words, s =>
      let (first, s) := expandWord interpret declares word s
      if s.leaving.isSome then ([], s)
      else
        let (rest, s) := expandWords interpret declares words s
        (first ++ rest, s)

/-- The commands that declare variables. -/
def declaringCommands : List String := ["export", "local", "readonly"]

/-- Expands the words of a command to fields.  The first field tells whether the command
declares variables. -/
def expandCommand (interpret : Interpreter) : List Word → State → List String × State
  | [], s => ([], s)
  | word :: words, s =>
      let (first, s) := expandWord interpret false word s
      if s.leaving.isSome then ([], s)
      else
        let (rest, s) :=
          match first with
          | [] | ["command"] => expandCommand interpret words s
          | name :: _ => expandWords interpret (declaringCommands.contains name) words s
        (first ++ rest, s)

end Shell
end Host
end MetricsScript
