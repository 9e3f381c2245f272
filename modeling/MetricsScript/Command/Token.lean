/-!
# Tokens of a command line

A command line is read as tokens.  *Fragments* are the pieces that can make up an argument:
plain words, quoted text, and the expansions that a shell would replace.  All other tokens
are operators, redirections, substitutions of a process, and comments.

Every token has a canonical written form, `Kind.render`: escapes and the modifiers of
`${...}` are not reproduced.
-/

namespace MetricsScript

/-- A range of byte offsets in a command line, from `start` up to but not including `stop`. -/
structure Span where
  start : Nat
  stop : Nat
deriving DecidableEq, Repr

/-- `next` begins exactly where `s` ends. -/
def Span.Touches (s next : Span) : Prop :=
  s.stop = next.start

instance (s next : Span) : Decidable (s.Touches next) :=
  inferInstanceAs (Decidable (s.stop = next.start))

namespace Command

/-- A piece of double-quoted text. -/
inductive QuotedPart where
  | literal (text : String)
  | parameter (name : String)
  | substitution (content : String)
deriving DecidableEq, Repr

/-- A token that joins with its neighbours into one argument. -/
inductive Fragment where
  /-- Unquoted text, its backslash escapes removed. -/
  | word (text : String)
  /-- Text between single quotes. -/
  | singleQuoted (text : String)
  /-- Text between double quotes, its expansions kept as parts of their own. -/
  | doubleQuoted (parts : List QuotedPart)
  /-- Unquoted text with an unescaped `*` or `?`. -/
  | glob (text : String)
  /-- A reference to a variable or a special parameter. -/
  | parameter (name : String)
  /-- A command to be replaced by its output, in parentheses or in backticks. -/
  | substitution (content : String) (backtick : Bool)
deriving DecidableEq, Repr

/-- An operator between commands or around them. -/
inductive Control where
  | andIf
  | orIf
  | pipe
  | pipeBoth
  | semicolon
  | doubleSemicolon
  | background
  | openParen
  | closeParen
deriving DecidableEq, Repr

/-- What a redirection does with its file descriptor. -/
inductive Redirection where
  | output
  | append
  | input
  | hereDocument
  | hereString
  | duplicateOutput
  | duplicateInput
deriving DecidableEq, Repr

/-- What a token is. -/
inductive Kind where
  | fragment (fragment : Fragment)
  | control (operator : Control)
  /-- A redirection, with the descriptor written in front of it. -/
  | redirect (descriptor : Option UInt32) (form : Redirection)
  /-- A redirection of both output streams. -/
  | redirectBoth (append : Bool)
  /-- A process whose output is read like a file. -/
  | processSubstitution (content : String)
  /-- The text after a `#`, up to the end of the line. -/
  | comment (text : String)
deriving DecidableEq, Repr

/-- A token and the place it was read from. -/
structure Token where
  kind : Kind
  span : Span
deriving DecidableEq, Repr

/-- Whether the part is literal text, which an argument keeps. -/
def QuotedPart.isLiteral : QuotedPart → Bool
  | .literal _ => true
  | .parameter _ | .substitution _ => false

/-- The canonical written form of a part of double-quoted text. -/
def QuotedPart.render : QuotedPart → String
  | .literal text => text
  | .parameter name => "$" ++ name
  | .substitution content => "$(" ++ content ++ ")"

/-- The canonical written form of a fragment. -/
def Fragment.render : Fragment → String
  | .word text | .glob text => text
  | .singleQuoted text => "'" ++ text ++ "'"
  | .doubleQuoted parts => "\"" ++ String.join (parts.map QuotedPart.render) ++ "\""
  | .parameter name => "$" ++ name
  | .substitution content true => "`" ++ content ++ "`"
  | .substitution content false => "$(" ++ content ++ ")"

/-- The written form of a control operator. -/
def Control.render : Control → String
  | .andIf => "&&"
  | .orIf => "||"
  | .pipe => "|"
  | .pipeBoth => "|&"
  | .semicolon => ";"
  | .doubleSemicolon => ";;"
  | .background => "&"
  | .openParen => "("
  | .closeParen => ")"

/-- The written form of a redirection, without a descriptor. -/
def Redirection.render : Redirection → String
  | .output => ">"
  | .append => ">>"
  | .input => "<"
  | .hereDocument => "<<"
  | .hereString => "<<<"
  | .duplicateOutput => ">&"
  | .duplicateInput => "<&"

/-- The canonical written form of a token. -/
def Kind.render : Kind → String
  | .fragment f => f.render
  | .control op => op.render
  | .redirect none form => form.render
  | .redirect (some n) form => toString n.toNat ++ form.render
  | .redirectBoth true => "&>>"
  | .redirectBoth false => "&>"
  | .processSubstitution content => "<(" ++ content ++ ")"
  | .comment text => "#" ++ text

/-- Whether the token is a fragment. -/
def Kind.isFragment : Kind → Bool
  | .fragment _ => true
  | _ => false

end Command
end MetricsScript
