import MetricsScript.Host.Shell.Item

/-!
# Reading a shell script

A script is a list of complete commands, each of which ends with its line.  They are read one
after the other, so that a fault in one of them leaves those before it as they are.

The shell only serves to run tools on a machine; no theorem is about it.
-/

namespace MetricsScript
namespace Host
namespace Shell

/-- A fault and the line on which it was found. -/
structure Broken where
  fault : Fault
  line : Nat
deriving DecidableEq, Repr

/-- A script as far as it can be read. -/
structure Script where
  commands : List Statement
  broken : Option Broken

/-- What is read, and the items behind it. -/
abbrev Read (α : Type) := α × List Placed

/-- The keyword that an item is. -/
def Item.keyword? : Item → Option String
  | .word w => Shell.keyword? w
  | _ => none

/-- How an item is spoken of. -/
def Item.name : Item → String
  | .word w =>
      match Shell.keyword? w with
      | some text => "\"" ++ text ++ "\""
      | none => "word"
  | .operator o => "\"" ++ o.render ++ "\""
  | .redirect _ _ | .document _ _ => "redirection"
  | .lineEnd => "newline"
  | .finish | .fault _ => "end of file"

/-- The fault that the next item is, something else perhaps being wanted. -/
def unexpected {α : Type} (wanted : Option String) : List Placed → Except Broken α
  | ⟨.fault fault, line⟩ :: _ => .error ⟨fault, line⟩
  | ⟨item, line⟩ :: _ => .error ⟨.unexpected item.name wanted, line⟩
  | [] => .error ⟨.unexpected Item.finish.name wanted, 1⟩

/-- Whether the next item is a keyword. -/
def startsWith (word : String) : List Placed → Bool
  | ⟨item, _⟩ :: _ => item.keyword? = some word
  | [] => false

/-- The items behind a keyword. -/
def expect (word : String) (is : List Placed) : Except Broken (List Placed) :=
  if startsWith word is then .ok is.tail else unexpected (some ("\"" ++ word ++ "\"")) is

/-- The items behind the parenthesis that closes. -/
def expectClosed : List Placed → Except Broken (List Placed)
  | ⟨.operator .closeParen, _⟩ :: rest => .ok rest
  | is => unexpected (some "\")\"") is

/-- The items without the line ends in front. -/
def skipLineEnds : List Placed → List Placed
  | ⟨.lineEnd, _⟩ :: rest => skipLineEnds rest
  | is => is

/-- The keywords that end a list of statements. -/
def endingKeywords : List String :=
  ["do", "done", "elif", "else", "esac", "fi", "then", "\x7d"]

/-- Whether a list of statements ends before an item. -/
def Item.endsList : Item → Bool
  | .finish | .operator .closeParen | .operator .doubleSemicolon => true
  | item => item.keyword?.any endingKeywords.contains

/-- Whether a list of statements ends here. -/
def atListEnd : List Placed → Bool
  | ⟨item, _⟩ :: _ => item.endsList
  | [] => true

/-- The line of the next item. -/
def lineOf : List Placed → Nat
  | ⟨_, line⟩ :: _ => line
  | [] => 1

/-- Reads words and redirections. -/
def readSimple : List Placed → Except Broken (Read (List Word × List Redirect))
  | ⟨.word w, _⟩ :: rest => do
      let ((words, redirects), more) ← readSimple rest
      .ok ((w :: words, redirects), more)
  | ⟨.document descriptor text, _⟩ :: rest => do
      let ((words, redirects), more) ← readSimple rest
      .ok ((words, ⟨descriptor, .hereDocument, text⟩ :: redirects), more)
  | ⟨.redirect descriptor form, _⟩ :: ⟨.word w, _⟩ :: rest => do
      let ((words, redirects), more) ← readSimple rest
      .ok ((words, ⟨descriptor, form, w⟩ :: redirects), more)
  | ⟨.redirect _ _, _⟩ :: rest => unexpected none rest
  | rest => .ok (([], []), rest)

/-- Reads the redirections behind a compound command. -/
def readRedirects : List Placed → Except Broken (Read (List Redirect))
  | ⟨.document descriptor text, _⟩ :: rest => do
      let (redirects, more) ← readRedirects rest
      .ok (⟨descriptor, .hereDocument, text⟩ :: redirects, more)
  | ⟨.redirect descriptor form, _⟩ :: ⟨.word w, _⟩ :: rest => do
      let (redirects, more) ← readRedirects rest
      .ok (⟨descriptor, form, w⟩ :: redirects, more)
  | ⟨.redirect _ _, _⟩ :: rest => unexpected none rest
  | rest => .ok ([], rest)

/-- Reads the items of a loop over items, up to the separator behind them. -/
def readLoopItems : List Placed → Except Broken (Read (List Word))
  | ⟨.word w, _⟩ :: rest => do
      let (words, more) ← readLoopItems rest
      .ok (w :: words, more)
  | ⟨.lineEnd, _⟩ :: rest | ⟨.operator .semicolon, _⟩ :: rest => .ok ([], rest)
  | rest => unexpected none rest

/-- The pattern that an item is.  One that is no word admits nothing but the empty text. -/
def Item.pattern : Item → Word
  | .word w => w
  | _ => []

/-- Reads the patterns of a branch, up to the parenthesis behind them.  Whatever stands in the
place of a pattern is taken for one. -/
def readPatterns : List Placed → Except Broken (Read (List Word))
  | ⟨.finish, line⟩ :: rest => unexpected (some "\")\"") (⟨.finish, line⟩ :: rest)
  | ⟨.fault fault, line⟩ :: _ => .error ⟨fault, line⟩
  | ⟨item, _⟩ :: ⟨.operator .pipe, _⟩ :: rest => do
      let (words, more) ← readPatterns rest
      .ok (item.pattern :: words, more)
  | ⟨_, _⟩ :: ⟨.word _, line⟩ :: _ => .error ⟨.unexpected "word" (some "\")\""), line⟩
  | ⟨item, _⟩ :: rest => do .ok ([item.pattern], ← expectClosed rest)
  | [] => unexpected (some "\")\"") []

/-- Whether a text can be the name of a variable. -/
def isName (text : String) : Bool :=
  match text.toList with
  | c :: cs => Command.isNameStart c && cs.all Command.isNameChar
  | [] => false

/-- The name of a variable that a word is. -/
def name? (word : Word) : Option String :=
  (plainText? word).filter isName

/-- Where a list of statements stands. -/
inductive ListPlace where
  /-- It is a complete command and ends with its line. -/
  | line
  /-- It has to hold a statement. -/
  | body
  /-- It may be empty. -/
  | branch
deriving DecidableEq, Repr

mutual

/-- Reads a list of statements.  The fuel bounds the depth. -/
def readList (place : ListPlace) : Nat → List Placed → Except Broken (Read Statement)
  | 0, is => unexpected none is
  | fuel + 1, is =>
      let is := if place = .line then is else skipLineEnds is
      match is with
      | ⟨.finish, _⟩ :: _ => .ok (.nothing, is)
      | ⟨.lineEnd, _⟩ :: rest => .ok (.nothing, rest)
      | _ =>
          if place = .branch && atListEnd is then .ok (.nothing, is)
          else do
            let (first, rest) ← readAndOr fuel is
            let goOn (first : Statement) (rest : List Placed) :
                Except Broken (Read Statement) :=
              let rest := if place = .line then rest else skipLineEnds rest
              match rest with
              | ⟨.finish, _⟩ :: _ => .ok (first, rest)
              | ⟨.lineEnd, _⟩ :: more => .ok (first, more)
              | _ =>
                  if place ≠ .line && atListEnd rest then .ok (first, rest)
                  else do
                    let (second, rest) ← readList place fuel rest
                    .ok (.sequence first second, rest)
            match rest with
            | ⟨.operator .background, _⟩ :: rest => goOn first.inBackground rest
            | ⟨.operator .semicolon, _⟩ :: rest => goOn first rest
            | ⟨.lineEnd, _⟩ :: more =>
                if place = .line then .ok (first, more) else goOn first more
            | ⟨.finish, _⟩ :: _ => .ok (first, rest)
            | _ => if place = .line then unexpected none rest else .ok (first, rest)

/-- Reads pipelines joined by conditions. -/
def readAndOr : Nat → List Placed → Except Broken (Read Statement)
  | 0, is => unexpected none is
  | fuel + 1, is => do
      let (first, rest) ← readPipeline fuel is
      readConditions fuel first rest

/-- Reads the conditions behind a pipeline, which bind from the left. -/
def readConditions : Nat → Statement → List Placed → Except Broken (Read Statement)
  | 0, _, is => unexpected none is
  | fuel + 1, first, ⟨.operator .andIf, _⟩ :: rest => do
      let (second, rest) ← readPipeline fuel (skipLineEnds rest)
      readConditions fuel (.andThen first second) rest
  | fuel + 1, first, ⟨.operator .orIf, _⟩ :: rest => do
      let (second, rest) ← readPipeline fuel (skipLineEnds rest)
      readConditions fuel (.orElse first second) rest
  | _ + 1, first, rest => .ok (first, rest)

/-- Reads a pipeline, whose status may be turned around. -/
def readPipeline : Nat → List Placed → Except Broken (Read Statement)
  | 0, is => unexpected none is
  | fuel + 1, is => do
      if startsWith "!" is then
        let (statement, rest) ← readStages fuel is.tail
        .ok (.opposite statement, rest)
      else readStages fuel is

/-- Reads the commands of a pipeline. -/
def readStages : Nat → List Placed → Except Broken (Read Statement)
  | 0, is => unexpected none is
  | fuel + 1, is => do
      let (first, rest) ← readCommand fuel is
      match rest with
      | ⟨.operator .pipe, _⟩ :: more =>
          let (second, rest) ← readStages fuel (skipLineEnds more)
          .ok (.pipe first second, rest)
      | _ => .ok (first, rest)

/-- Reads one command. -/
def readCommand : Nat → List Placed → Except Broken (Read Statement)
  | 0, is => unexpected none is
  | fuel + 1, is => do
      let line := lineOf is
      match is with
      | ⟨.operator .openParen, _⟩ :: rest =>
          let (body, rest) ← readList .body fuel rest
          let (redirects, rest) ← readRedirects (← expectClosed rest)
          .ok (.subshell line body redirects, rest)
      | ⟨.word w, _⟩ :: rest =>
          match keyword? w, rest with
          | some word, _ =>
              let (body, rest) ← readCompound fuel word is
              let (redirects, rest) ← readRedirects rest
              .ok (if redirects.isEmpty then body else body.under line redirects, rest)
          | none, ⟨.operator .openParen, _⟩ :: rest =>
              let rest ← expectClosed rest
              match name? w with
              | some name =>
                  let (body, rest) ← readCommand fuel (skipLineEnds rest)
                  .ok (.function name body, rest)
              | none => .error ⟨.badFunctionName, line⟩
          | none, _ =>
              let ((words, redirects), rest) ← readSimple is
              .ok (.simple line words redirects, rest)
      | ⟨.redirect _ _, _⟩ :: _ | ⟨.document _ _, _⟩ :: _ =>
          let ((words, redirects), rest) ← readSimple is
          .ok (.simple line words redirects, rest)
      | _ => unexpected none is

/-- Reads what a keyword opens.  The keyword is the next item. -/
def readCompound : Nat → String → List Placed → Except Broken (Read Statement)
  | 0, _, is => unexpected none is
  | fuel + 1, word, is => do
      match word with
      | "\x7b" =>
          let (body, rest) ← readList .body fuel is.tail
          .ok (body, ← expect "\x7d" rest)
      | "if" =>
          let (statement, rest) ← readConditional fuel is.tail
          .ok (statement, ← expect "fi" rest)
      | "while" | "until" =>
          let (condition, rest) ← readList .body fuel is.tail
          let (body, rest) ← readBody fuel rest
          .ok (.loop (word = "until") condition body, rest)
      | "for" => readFor fuel is.tail
      | "case" => readCase fuel is.tail
      | _ => unexpected none is

/-- Reads the body of a loop. -/
def readBody : Nat → List Placed → Except Broken (Read Statement)
  | 0, is => unexpected none is
  | fuel + 1, is => do
      let (body, rest) ← readList .body fuel (← expect "do" is)
      .ok (body, ← expect "done" rest)

/-- Reads a conditional up to its last keyword. -/
def readConditional : Nat → List Placed → Except Broken (Read Statement)
  | 0, is => unexpected none is
  | fuel + 1, is => do
      let (condition, rest) ← readList .body fuel is
      let (yes, rest) ← readList .body fuel (← expect "then" rest)
      if startsWith "elif" rest then
        let (no, rest) ← readConditional fuel rest.tail
        .ok (.conditional condition yes no, rest)
      else if startsWith "else" rest then
        let (no, rest) ← readList .body fuel rest.tail
        .ok (.conditional condition yes no, rest)
      else .ok (.conditional condition yes .nothing, rest)

/-- Reads a loop over items, or over the parameters if it names none. -/
def readFor : Nat → List Placed → Except Broken (Read Statement)
  | 0, is => unexpected none is
  | fuel + 1, is => do
      let line := lineOf is
      match is with
      | ⟨.word w, _⟩ :: rest =>
          match name? w with
          | none => .error ⟨.badLoopName, line⟩
          | some name =>
              let rest := skipLineEnds rest
              let (items, rest) ←
                if startsWith "in" rest then readLoopItems rest.tail
                else
                  match rest with
                  | ⟨.operator .semicolon, _⟩ :: rest => .ok ([[.parameter true "@"]], rest)
                  | _ => .ok ([[.parameter true "@"]], rest)
              let (body, rest) ← readBody fuel (skipLineEnds rest)
              .ok (.each line name items body, rest)
      | ⟨.fault fault, line⟩ :: _ => .error ⟨fault, line⟩
      | _ => .error ⟨.badLoopName, line⟩

/-- Reads a selection. -/
def readCase : Nat → List Placed → Except Broken (Read Statement)
  | 0, is => unexpected none is
  | fuel + 1, is => do
      match is with
      | ⟨.word w, line⟩ :: rest =>
          let (branches, rest) ← readBranches fuel (← expect "in" (skipLineEnds rest))
          .ok (.select line w branches, rest)
      | _ => unexpected (some "word") is

/-- Reads the branches of a selection, up to the keyword behind them. -/
def readBranches : Nat → List Placed → Except Broken (Read Branches)
  | 0, is => unexpected none is
  | fuel + 1, is => do
      let is := skipLineEnds is
      if startsWith "esac" is then .ok (.none, is.tail)
      else
        let inner := match is with
          | ⟨.operator .openParen, _⟩ :: rest => rest
          | _ => is
        let (patterns, rest) ← readPatterns inner
        let (body, rest) ← readList .branch fuel rest
        match rest with
        | ⟨.operator .doubleSemicolon, _⟩ :: rest =>
            let (others, rest) ← readBranches fuel rest
            .ok (.branch patterns body others, rest)
        | _ =>
            if startsWith "esac" rest then .ok (.branch patterns body .none, rest.tail)
            else unexpected (some "\";;\"") rest

end

/-- Reads complete commands.  The fuel is more than the number of items. -/
def readCommands (depth : Nat) : Nat → List Placed → Script
  | 0, _ | _, [] | _, ⟨.finish, _⟩ :: _ => ⟨[], none⟩
  | fuel + 1, ⟨.lineEnd, _⟩ :: rest => readCommands depth fuel rest
  | fuel + 1, is =>
      match readList .line depth is with
      | .error broken => ⟨[], some broken⟩
      | .ok (command, rest) =>
          let script := readCommands depth fuel rest
          { script with commands := command :: script.commands }

/-- Reads a script that begins on a line. -/
def readScript (line : Nat) (text : String) : Script :=
  let is := itemsOf line text
  readCommands (16 * is.length + 16) (is.length + 1) is

end Shell
end Host
end MetricsScript
