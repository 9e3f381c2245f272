import MetricsScript.Command.Token

/-!
# Statements of a shell

The shell that a host runs knows simple commands, lists and pipelines of them, functions, and
the usual loops and conditionals.  The words of a command are made of parts, some of which
stand for text that is found only when the command is run.

The shell only serves to run tools on a machine; no theorem is about it.
-/

namespace MetricsScript
namespace Host
namespace Shell

/-- What is done with the value of a parameter.  Where `empty` is true an empty value counts
as a missing one. -/
inductive Change where
  /-- Another text takes the place of a missing value. -/
  | fallback (empty : Bool)
  /-- Another text takes the place of a missing value and becomes the value. -/
  | assign (empty : Bool)
  /-- Another text takes the place of a value that is there. -/
  | alternative (empty : Bool)
  /-- A missing value ends the shell. -/
  | demand (empty : Bool)
  /-- The shortest or longest beginning that a pattern admits is cut off. -/
  | cutFront (longest : Bool)
  /-- The shortest or longest end that a pattern admits is cut off. -/
  | cutBack (longest : Bool)
deriving DecidableEq, Repr

/-- A part of a word.  What is not quoted may fall into several fields. -/
inductive Part where
  | text (quoted : Bool) (text : String)
  | parameter (quoted : Bool) (name : String)
  /-- The number of characters in the value of a parameter. -/
  | size (name : String)
  | changed (quoted : Bool) (name : String) (change : Change) (operand : List Part)
  /-- The output of a script. -/
  | output (quoted : Bool) (script : String)
  | arithmetic (quoted : Bool) (expression : List Part)
  /-- An expansion that cannot be read. -/
  | unknown
deriving Repr

/-- A word is made of the parts that touch. -/
abbrev Word := List Part

/-- A redirection of one descriptor.  The target of a document is its text. -/
structure Redirect where
  descriptor : Nat
  form : Command.Redirection
  target : Word
deriving Repr

mutual

/-- A statement. -/
inductive Statement where
  /-- A command, with the line on which it stands. -/
  | simple (line : Nat) (words : List Word) (redirects : List Redirect)
  | sequence (first second : Statement)
  | andThen (first second : Statement)
  | orElse (first second : Statement)
  | opposite (statement : Statement)
  | pipe (first second : Statement)
  | conditional (condition yes no : Statement)
  /-- Repeats the body while the condition succeeds, or while it fails if it is negated. -/
  | loop (negated : Bool) (condition body : Statement)
  /-- Repeats the body for each of the items. -/
  | each (line : Nat) (name : String) (items : List Word) (body : Statement)
  /-- Runs the first branch that admits the subject. -/
  | select (line : Nat) (subject : Word) (branches : Branches)
  | group (line : Nat) (body : Statement) (redirects : List Redirect)
  | subshell (line : Nat) (body : Statement) (redirects : List Redirect)
  /-- Goes on without waiting for the statement. -/
  | job (statement : Statement)
  | function (name : String) (body : Statement)

/-- The branches of a selection. -/
inductive Branches where
  | none
  | branch (patterns : List Word) (body : Statement) (others : Branches)

end

/-- The statement that does nothing. -/
def Statement.nothing : Statement := .simple 0 [] []

/-- The statement as a job.  A job is a shell of its own already. -/
def Statement.inBackground : Statement → Statement
  | .subshell line body redirects => .job (.group line body redirects)
  | statement => .job statement

/-- The statement under redirections.  They take the place of those of a shell within the
shell. -/
def Statement.under (line : Nat) (redirects : List Redirect) : Statement → Statement
  | .subshell own body _ => .subshell own body redirects
  | statement => .group line statement redirects

/-- The words that have a meaning of their own at the beginning of a command. -/
def keywords : List String :=
  ["!", "\x7b", "\x7d", "case", "do", "done", "elif", "else", "esac", "fi", "for", "if", "in",
    "then", "until", "while"]

/-- The text of a word that is written without quotes and expansions. -/
def plainText? : Word → Option String
  | [.text false text] => some text
  | _ => none

/-- The keyword that a word is. -/
def keyword? (word : Word) : Option String :=
  (plainText? word).filter keywords.contains

end Shell
end Host
end MetricsScript
