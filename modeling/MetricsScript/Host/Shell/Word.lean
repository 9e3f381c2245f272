import MetricsScript.Command.Expansion
import MetricsScript.Host.Shell.Syntax

/-!
# Reading the words of a script

A word runs up to the next blank or operator outside of quotes.  Text between quotes, the
operand of an expansion and the text of a document are read alike, but end in other places
and give quotes another meaning.

The shell only serves to run tools on a machine; no theorem is about it.
-/

namespace MetricsScript
namespace Host
namespace Shell

/-- Why a script cannot be read. -/
inductive Fault where
  | quoteOpen
  | braceOpen
  | backtickOpen
  | arithmeticOpen
  | badLoopName
  | badFunctionName
  /-- Something stands where it cannot, perhaps in the place of something that is wanted. -/
  | unexpected (item : String) (wanted : Option String)
deriving DecidableEq, Repr

/-- What is said of a fault. -/
def Fault.message : Fault → String
  | .quoteOpen => "Unterminated quoted string"
  | .braceOpen => "Missing '\x7d'"
  | .backtickOpen => "EOF in backquote substitution"
  | .arithmeticOpen => "Missing '))'"
  | .badLoopName => "Bad for loop variable"
  | .badFunctionName => "Bad function name"
  | .unexpected item none => item ++ " unexpected"
  | .unexpected item (some wanted) => item ++ " unexpected (expecting " ++ wanted ++ ")"

/-- What the text being read stands in. -/
inductive Place where
  | word
  /-- Between double quotes. -/
  | quotes
  /-- Behind the name of a parameter in braces, which may stand between double quotes. -/
  | operand (quoted : Bool)
  /-- In the text of a document or in an expression. -/
  | document
deriving DecidableEq, Repr

namespace Place

/-- Whether characters stand for themselves and expansions do not fall into fields. -/
def quoted : Place → Bool
  | .word => false
  | .quotes | .document => true
  | .operand inner => inner

/-- Whether a character ends the text. -/
def ends (place : Place) (c : Char) : Bool :=
  match place with
  | .word =>
      c == ' ' || c == '\t' || c == '\n' || c == ';' || c == '&' || c == '|' || c == '<' ||
        c == '>' || c == '(' || c == ')'
  | .quotes => c == '"'
  | .operand _ => c == '\x7d'
  | .document => false

/-- Whether a backslash takes away the meaning of a character. -/
def escapes (place : Place) (c : Char) : Bool :=
  !place.quoted || c == '$' || c == '\x60' || c == '\\' ||
    (c == '"' && place != .document) || (c == '\x7d' && place == .operand true)

/-- What is wrong if a script ends inside the text. -/
def atEnd : Place → Option Fault
  | .word | .document => none
  | .quotes => some .quoteOpen
  | .operand _ => some .braceOpen

end Place

/-- The parts with a character in front, which joins a text that is there. -/
def consText (quoted : Bool) (c : Char) : List Part → List Part
  | .text q text :: parts =>
      if q = quoted then .text q (c.toString ++ text) :: parts
      else .text quoted c.toString :: .text q text :: parts
  | parts => .text quoted c.toString :: parts

/-- Reads a script in backticks, the first of which has been read. -/
def readBackticks (quoted : Bool) : List Char → Option (List Char × List Char)
  | [] => none
  | '\\' :: c :: cs =>
      let kept := if c = '$' || c = '\x60' || c = '\\' || (quoted && c = '"') then [c]
        else ['\\', c]
      (readBackticks quoted cs).map fun (script, rest) => (kept ++ script, rest)
  | c :: cs =>
      if c = '\x60' then some ([], cs)
      else (readBackticks quoted cs).map fun (script, rest) => (c :: script, rest)

/-- Reads up to the parenthesis that closes, if there is one. -/
def readParentheses (cs : List Char) : Option (List Char × List Char) :=
  let (body, rest) := Command.readBody Command.parentheses 0 .bare cs
  if body.length + rest.length < cs.length then some (body, rest) else none

/-- The name of a parameter in braces: a name, a numeral or one special character. -/
def parameterName : List Char → List Char
  | [] => []
  | c :: cs =>
      if Command.isNameStart c then (c :: cs).takeWhile Command.isNameChar
      else if Text.isDigit c then (c :: cs).takeWhile Text.isDigit
      else if Command.isSpecialParameter c then [c]
      else []

/-- Reads what is done with the value of a parameter. -/
def readChange : List Char → Option (Change × List Char)
  | ':' :: '-' :: cs => some (.fallback true, cs)
  | ':' :: '=' :: cs => some (.assign true, cs)
  | ':' :: '+' :: cs => some (.alternative true, cs)
  | ':' :: '?' :: cs => some (.demand true, cs)
  | '-' :: cs => some (.fallback false, cs)
  | '=' :: cs => some (.assign false, cs)
  | '+' :: cs => some (.alternative false, cs)
  | '?' :: cs => some (.demand false, cs)
  | '#' :: '#' :: cs => some (.cutFront true, cs)
  | '#' :: cs => some (.cutFront false, cs)
  | '%' :: '%' :: cs => some (.cutBack true, cs)
  | '%' :: cs => some (.cutBack false, cs)
  | _ => none

/-- Whether the operand of a change is a pattern, which quotes around it do not quote. -/
def Change.takesPattern : Change → Bool
  | .cutFront _ | .cutBack _ => true
  | _ => false

mutual

/-- Reads parts up to where the text ends.  The fuel is more than the number of characters. -/
def readParts : Nat → Place → List Char → Except Fault (List Part × List Char)
  | 0, _, _ => .error .quoteOpen
  | fuel + 1, place, cs =>
      match cs with
      | [] =>
          match place.atEnd with
          | some fault => .error fault
          | none => .ok ([], [])
      | '\\' :: '\n' :: cs => readParts fuel place cs
      | '\\' :: c :: cs => do
          if place.escapes c then
            let (parts, rest) ← readParts fuel place cs
            .ok (consText true c parts, rest)
          else
            let (parts, rest) ← readParts fuel place (c :: cs)
            .ok (consText true '\\' parts, rest)
      | c :: cs => do
          if place.ends c then .ok ([], if place = .word then c :: cs else cs)
          else
            let (first, rest) ← readPart fuel place c cs
            let (parts, rest) ← readParts fuel place rest
            match first with
            | none => .ok (consText place.quoted c parts, rest)
            | some first => .ok (first ++ parts, rest)

/-- Reads the parts that a character begins, if it does not stand for itself. -/
def readPart : Nat → Place → Char → List Char →
    Except Fault (Option (List Part) × List Char)
  | 0, _, _, _ => .error .quoteOpen
  | fuel + 1, place, c, cs =>
      if c = '\'' && !place.quoted then
        let text := cs.takeWhile (· != '\'')
        match cs.drop text.length with
        | [] => .error .quoteOpen
        | _ :: rest => .ok (some [.text true (String.ofList text)], rest)
      else if c = '"' && place ≠ .document then do
        let (parts, rest) ← readParts fuel .quotes cs
        .ok (some (if parts.isEmpty then [.text true ""] else parts), rest)
      else if c = '\x60' then
        match readBackticks place.quoted cs with
        | some (script, rest) =>
            .ok (some [.output place.quoted (String.ofList script)], rest)
        | none => .error .backtickOpen
      else if c = '$' then readExpansion fuel place.quoted cs
      else .ok (none, cs)

/-- Reads the expansion behind a dollar sign, if there is one. -/
def readExpansion : Nat → Bool → List Char → Except Fault (Option (List Part) × List Char)
  | 0, _, _ => .error .quoteOpen
  | fuel + 1, quoted, cs =>
      match cs with
      | '(' :: '(' :: cs =>
          match readParentheses ('(' :: cs) with
          | some (_ :: body, rest) =>
              if body.getLast? = some ')' then do
                let (expression, _) ← readParts fuel .document body.dropLast
                .ok (some [.arithmetic quoted expression], rest)
              else .ok (some [.output quoted (String.ofList ('(' :: body))], rest)
          | _ => .error .arithmeticOpen
      | '(' :: cs =>
          match readParentheses cs with
          | some (script, rest) => .ok (some [.output quoted (String.ofList script)], rest)
          | none => .error (.unexpected "end of file" (some "\")\""))
      | '\x7b' :: cs => do
          let (part, rest) ← readBraced fuel quoted cs
          .ok (some [part], rest)
      | c :: cs =>
          if Command.isSpecialParameter c then .ok (some [.parameter quoted c.toString], cs)
          else
            let name := (c :: cs).takeWhile Command.isNameChar
            if name.isEmpty then .ok (none, c :: cs)
            else .ok (some [.parameter quoted (String.ofList name)], (c :: cs).drop name.length)
      | [] => .ok (none, [])

/-- Reads a parameter in braces, the first of which has been read. -/
def readBraced : Nat → Bool → List Char → Except Fault (Part × List Char)
  | 0, _, _ => .error .braceOpen
  | fuel + 1, quoted, cs =>
      let measured := parameterName cs.tail
      match cs.head?, cs.tail.drop measured.length, measured.isEmpty with
      | some '#', '\x7d' :: rest, false => .ok (.size (String.ofList measured), rest)
      | _, _, _ =>
          let name := parameterName cs
          let behind := cs.drop name.length
          match name, behind, readChange behind with
          | _ :: _, '\x7d' :: rest, _ =>
              .ok (.parameter quoted (String.ofList name), rest)
          | _ :: _, _, some (change, rest) => do
              let place := Place.operand (quoted && !change.takesPattern)
              let (operand, rest) ← readParts fuel place rest
              .ok (.changed quoted (String.ofList name) change operand, rest)
          | _, _, _ => do
              let (_, rest) ← readParts fuel (.operand quoted) behind
              .ok (.unknown, rest)

end

/-- Reads a word. -/
def readWord (cs : List Char) : Except Fault (Word × List Char) :=
  readParts (4 * cs.length + 4) .word cs

/-- Reads the text of a document. -/
def readDocument (cs : List Char) : Word :=
  match readParts (4 * cs.length + 4) .document cs with
  | .ok (parts, _) => parts
  | .error _ => [.unknown]

end Shell
end Host
end MetricsScript
