import MetricsScript.Host.Shell.Word

/-!
# Items of a script

A script is read as items: words, operators, redirections and line ends.  Every item bears
the number of the line that the reader has come to with it.  The documents that redirections
ask for begin on the next line.

The shell only serves to run tools on a machine; no theorem is about it.
-/

namespace MetricsScript
namespace Host
namespace Shell

/-- What a script is made of. -/
inductive Item where
  | word (word : Word)
  | operator (operator : Command.Control)
  /-- A redirection, whose target comes next. -/
  | redirect (descriptor : Nat) (form : Command.Redirection)
  /-- A redirection that reads a document. -/
  | document (descriptor : Nat) (text : Word)
  | lineEnd
  | finish
  | fault (fault : Fault)
deriving Repr

/-- An item and the line that has been reached with it. -/
structure Placed where
  item : Item
  line : Nat
deriving Repr

/-- A document that has been asked for. -/
structure Awaited where
  /-- The line that ends it. -/
  delimiter : List Char
  /-- Whether its text stands as it is. -/
  quoted : Bool
  /-- Whether tabs at the beginning of its lines do not count. -/
  stripped : Bool
deriving DecidableEq, Repr

/-- The number of line ends in a text. -/
def lineCount (cs : List Char) : Nat :=
  cs.count '\n'

/-- The lines of a document and the text behind the line that ends it.  The fuel is the number
of characters. -/
def Awaited.read (a : Awaited) : Nat → List Char → List Char × List Char
  | 0, _ => ([], [])
  | _, [] => ([], [])
  | fuel + 1, cs =>
      let cs := if a.stripped then cs.dropWhile (· == '\t') else cs
      let line := cs.takeWhile (· != '\n')
      let rest := cs.drop (line.length + 1)
      if line = a.delimiter then ([], rest)
      else
        let (text, rest) := a.read fuel rest
        (cs.take (line.length + 1) ++ text, rest)

/-- The word that makes up the text of a document. -/
def Awaited.word (a : Awaited) (text : List Char) : Word :=
  if a.quoted then [.text true (String.ofList text)] else readDocument text

/-- Reads documents one after the other. -/
def readDocuments : List Awaited → List Char → List Word × List Char
  | [], cs => ([], cs)
  | a :: awaited, cs =>
      let (text, rest) := a.read (cs.length + 1) cs
      let (words, rest) := readDocuments awaited rest
      (a.word text :: words, rest)

/-- The document that a word asks for. -/
def Awaited.ofWord (stripped : Bool) (word : Word) : Awaited where
  delimiter := word.flatMap fun part =>
    match part with
    | .text _ text => text.toList
    | _ => []
  quoted := word.any fun part =>
    match part with
    | .text quoted _ => quoted
    | _ => false
  stripped := stripped

/-- The operator at the front of a text. -/
def readOperator : List Char → Option (Command.Control × List Char)
  | '&' :: '&' :: cs => some (.andIf, cs)
  | '&' :: cs => some (.background, cs)
  | '|' :: '|' :: cs => some (.orIf, cs)
  | '|' :: cs => some (.pipe, cs)
  | ';' :: ';' :: cs => some (.doubleSemicolon, cs)
  | ';' :: cs => some (.semicolon, cs)
  | '(' :: cs => some (.openParen, cs)
  | ')' :: cs => some (.closeParen, cs)
  | _ => none

/-- The redirection at the front of a text, the descriptor that it changes, and whether it
strips a document of its tabs. -/
def readForm : List Char → Option (Command.Redirection × Nat × Bool × List Char)
  | '>' :: '>' :: cs => some (.append, 1, false, cs)
  | '>' :: '&' :: cs => some (.duplicateOutput, 1, false, cs)
  | '>' :: '|' :: cs | '>' :: cs => some (.output, 1, false, cs)
  | '<' :: '<' :: '-' :: cs => some (.hereDocument, 0, true, cs)
  | '<' :: '<' :: cs => some (.hereDocument, 0, false, cs)
  | '<' :: '&' :: cs => some (.duplicateInput, 0, false, cs)
  | '<' :: '>' :: cs | '<' :: cs => some (.input, 0, false, cs)
  | _ => none

/-- A redirection at the front of a text, with a digit for its descriptor. -/
def readRedirection : List Char → Option (Command.Redirection × Nat × Bool × List Char)
  | c :: cs =>
      if Text.isDigit c then
        (readForm cs).map fun (form, _, stripped, rest) =>
          (form, Text.digitsValue [c], stripped, rest)
      else readForm (c :: cs)
  | [] => none

/-- Reads the items of a script from a line on, and the documents that they ask for.  The fuel
is more than the number of characters. -/
def readItems : Nat → Nat → List Awaited → List Char → List Placed × List Word
  | 0, line, awaited, _ | _ + 1, line, awaited, [] =>
      ([⟨.finish, line⟩], awaited.map fun a => a.word [])
  | fuel + 1, line, awaited, '\\' :: '\n' :: cs => readItems fuel (line + 1) awaited cs
  | fuel + 1, line, awaited, '\n' :: cs =>
      let (words, rest) := readDocuments awaited cs
      let next := line + 1 + (lineCount cs - lineCount rest)
      let (items, documents) := readItems fuel next [] rest
      (⟨.lineEnd, line + 1⟩ :: items, words ++ documents)
  | fuel + 1, line, awaited, c :: cs =>
      if c = ' ' || c = '\t' then readItems fuel line awaited cs
      else if c = '#' then readItems fuel line awaited (cs.dropWhile (· != '\n'))
      else
        match readOperator (c :: cs), readRedirection (c :: cs) with
        | some (operator, rest), _ =>
            let (items, documents) := readItems fuel line awaited rest
            (⟨.operator operator, line⟩ :: items, documents)
        | none, some (form, descriptor, stripped, rest) =>
            let target := rest.dropWhile fun c => c == ' ' || c == '\t'
            match form, readWord target with
            | .hereDocument, .ok (first :: parts, behind) =>
                let a := Awaited.ofWord stripped (first :: parts)
                let (items, documents) := readItems fuel line (awaited ++ [a]) behind
                (⟨.document descriptor [], line⟩ :: items, documents)
            | _, _ =>
                let (items, documents) := readItems fuel line awaited rest
                (⟨.redirect descriptor form, line⟩ :: items, documents)
        | none, none =>
            match readWord (c :: cs) with
            | .ok (word, rest) =>
                let next := line + (lineCount (c :: cs) - lineCount rest)
                let (items, documents) := readItems fuel next awaited rest
                (⟨.word word, next⟩ :: items, documents)
            | .error fault => ([⟨.fault fault, line + lineCount cs⟩], [])

/-- The items with the documents that they ask for in their places. -/
def withDocuments : List Word → List Placed → List Placed
  | word :: words, ⟨.document descriptor _, line⟩ :: items =>
      ⟨.document descriptor word, line⟩ :: withDocuments words items
  | words, item :: items => item :: withDocuments words items
  | _, [] => []

/-- The items of a script that begins on a line. -/
def itemsOf (line : Nat) (script : String) : List Placed :=
  let (items, documents) := readItems (script.length + 1) line [] script.toList
  withDocuments documents items

end Shell
end Host
end MetricsScript
