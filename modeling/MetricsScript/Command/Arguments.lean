import MetricsScript.Command.Lexer

/-!
# The arguments of a command line

Fragments that touch make up one argument.  Literal text is kept and expansions contribute
nothing; an argument without any literal fragment, or with a glob in it, is dropped as a
whole.  `discarded` lists in canonical form what a command line loses.
-/

namespace MetricsScript
namespace Command

/-- An argument under construction. -/
structure Pending where
  /-- The literal text so far. -/
  text : String
  /-- Some fragment was literal; quoted text counts even when it is empty. -/
  literal : Bool
  /-- Some fragment was a glob, which spoils the argument. -/
  glob : Bool
  /-- The offset at which the last fragment ends. -/
  stop : Nat
deriving DecidableEq, Repr

/-- The argument before its first fragment. -/
def Pending.empty : Pending := ⟨"", false, false, 0⟩

/-- The literal text of a part of double-quoted text. -/
def QuotedPart.literalText : QuotedPart → String
  | .literal text => text
  | .parameter _ | .substitution _ => ""

/-- The text that a fragment adds to its argument. -/
def Fragment.literalText : Fragment → String
  | .word text | .singleQuoted text | .glob text => text
  | .doubleQuoted parts => String.join (parts.map QuotedPart.literalText)
  | .parameter _ | .substitution _ _ => ""

/-- Whether a fragment is literal text. -/
def Fragment.isLiteral : Fragment → Bool
  | .word _ | .singleQuoted _ | .doubleQuoted _ => true
  | .glob _ | .parameter _ | .substitution _ _ => false

/-- Whether a fragment is a glob. -/
def Fragment.isGlob : Fragment → Bool
  | .glob _ => true
  | _ => false

/-- The argument with one more fragment, which ends at `stop`. -/
def Pending.add (p : Pending) (f : Fragment) (stop : Nat) : Pending where
  text := p.text ++ f.literalText
  literal := p.literal || f.isLiteral
  glob := p.glob || f.isGlob
  stop := stop

/-- The finished argument, if it is one. -/
def Pending.finish (p : Pending) : List String :=
  if p.literal && !p.glob then [p.text] else []

/-- Joins tokens into arguments, the argument `pending` being under construction. -/
def assemble : Option Pending → List Token → List String
  | none, [] => []
  | some p, [] => p.finish
  | none, ⟨.fragment f, span⟩ :: ts =>
      assemble (some (Pending.empty.add f span.stop)) ts
  | some p, ⟨.fragment f, span⟩ :: ts =>
      if p.stop = span.start then assemble (some (p.add f span.stop)) ts
      else p.finish ++ assemble (some (Pending.empty.add f span.stop)) ts
  | none, _ :: ts => assemble none ts
  | some p, _ :: ts => p.finish ++ assemble none ts

/-- The literal arguments of a command line.  Nothing is ever expanded or executed. -/
def arguments (line : String) : List String :=
  assemble none (tokens line)

/-- What is lost of one token: nothing of literal text, the expansions of double-quoted text,
and all of any other token. -/
def Kind.discarded : Kind → List String
  | .fragment (.word _) | .fragment (.singleQuoted _) => []
  | .fragment (.doubleQuoted parts) =>
      (parts.filter fun part => !part.isLiteral).map QuotedPart.render
  | kind => [kind.render]

/-- The canonical forms of everything that is left out of the arguments of a command line. -/
def discarded (line : String) : List String :=
  (tokens line).flatMap fun t => t.kind.discarded

end Command
end MetricsScript
