import MetricsScript.Host.Files
import MetricsScript.Host.Utilities.Printf
import MetricsScript.Text.Decimal

/-!
# Conditions

A condition compares texts or numbers, or asks for a file.  Conditions are joined by `-a` and
`-o`, turned around by `!` and put into parentheses.  A word is an operator only where an
operator can stand.

This only serves to run tools on a machine; no theorem is about it.
-/

namespace MetricsScript
namespace Host

/-- The operators with one operand. -/
def unaryOperators : List String :=
  ["-r", "-w", "-x", "-e", "-f", "-d", "-c", "-b", "-p", "-u", "-g", "-k", "-s", "-t", "-z",
    "-n", "-h", "-O", "-G", "-L", "-S"]

/-- The operators with two operands. -/
def binaryOperators : List String :=
  ["=", "!=", "<", ">", "-eq", "-ne", "-ge", "-gt", "-le", "-lt", "-nt", "-ot", "-ef"]

/-- What a condition comes to, or why it cannot be answered. -/
abbrev Answer := Except String

/-- The number that an operand is, blanks around it not counting. -/
def operandNumber (operand : String) : Answer Int :=
  let isBlank (c : Char) := c == ' ' || c == '\t' || c == '\n'
  let cs := ((operand.toList.dropWhile isBlank).reverse.dropWhile isBlank).reverse
  match Text.signedNumeral? cs with
  | some n => .ok n
  | none => .error ("Illegal number: " ++ operand)

/-- Whether a file has a property. -/
def testNode (operator : String) : Node → Bool
  | .directory => ! ["-f", "-c", "-b", "-p", "-u", "-g", "-h", "-L", "-S"].contains operator
  | .file bytes =>
      ["-e", "-f", "-r", "-w", "-O", "-G"].contains operator ||
        (operator = "-s" && !bytes.isEmpty)
  | .executable _ _ => ["-e", "-f", "-r", "-w", "-x", "-s", "-O", "-G"].contains operator
  | .device _ => ["-e", "-c", "-r", "-w", "-O", "-G"].contains operator

/-- Answers a condition with one operand. -/
def testUnary (files : Files) (operator operand : String) : Answer Bool :=
  match operator with
  | "-n" => .ok (!operand.isEmpty)
  | "-z" => .ok operand.isEmpty
  | "-t" => (operandNumber operand).map fun _ => false
  | _ =>
      match files.find operand with
      | .ok node => .ok (testNode operator node)
      | .error _ => .ok false

/-- Compares two numbers. -/
def compareNumbers (operator : String) (a b : Int) : Bool :=
  match operator with
  | "-eq" => a = b
  | "-ne" => a ≠ b
  | "-lt" => a < b
  | "-le" => a ≤ b
  | "-gt" => b < a
  | _ => b ≤ a

/-- Answers a condition with two operands. -/
def testBinary (left operator right : String) : Answer Bool :=
  match operator with
  | "=" => .ok (left = right)
  | "!=" => .ok (left ≠ right)
  | "<" => .ok (left < right)
  | ">" => .ok (right < left)
  | "-nt" | "-ot" | "-ef" => .ok false
  | _ => do .ok (compareNumbers operator (← operandNumber left) (← operandNumber right))

/-- Whether a word that could be an operator with one operand is itself an operand. -/
def isOperand : List String → Bool
  | [] => true
  | [_] => false
  | second :: _ => binaryOperators.contains second

mutual

/-- Answers conditions of which one has to hold.  The fuel bounds the depth.  What is left
over is given back. -/
def testEither (files : Files) : Nat → List String → Answer (Bool × List String)
  | 0, _ => .error "argument expected"
  | fuel + 1, words => do
      let (left, rest) ← testBoth files fuel words
      match rest with
      | "-o" :: more =>
          let (right, rest) ← testEither files fuel more
          .ok (left || right, rest)
      | _ => .ok (left, rest)

/-- Answers conditions that all have to hold. -/
def testBoth (files : Files) : Nat → List String → Answer (Bool × List String)
  | 0, _ => .error "argument expected"
  | fuel + 1, words => do
      let (left, rest) ← testOpposite files fuel words
      match rest with
      | "-a" :: more =>
          let (right, rest) ← testBoth files fuel more
          .ok (left && right, rest)
      | _ => .ok (left, rest)

/-- Answers a condition that may be turned around. -/
def testOpposite (files : Files) : Nat → List String → Answer (Bool × List String)
  | 0, _ => .error "argument expected"
  | fuel + 1, "!" :: words => do
      let (answer, rest) ← testOpposite files fuel words
      .ok (!answer, rest)
  | fuel + 1, words => testSimple files fuel words

/-- Answers a condition that is not made of others, or one in parentheses. -/
def testSimple (files : Files) : Nat → List String → Answer (Bool × List String)
  | 0, _ => .error "argument expected"
  | _ + 1, [] => .ok (false, [])
  | fuel + 1, first :: words => do
      match first, words with
      | "(", ")" :: rest => .ok (false, rest)
      | "(", _ :: _ =>
          let (answer, rest) ← testEither files fuel words
          match rest with
          | ")" :: rest => .ok (answer, rest)
          | _ => .error "closing paren expected"
      | _, operand :: rest =>
          if unaryOperators.contains first && !isOperand words then
            .ok (← testUnary files first operand, rest)
          else if binaryOperators.contains operand then
            match rest with
            | right :: rest => .ok (← testBinary first operand right, rest)
            | [] => .error (operand ++ ": argument expected")
          else .ok (!first.isEmpty, words)
      | _, [] => .ok (!first.isEmpty, [])

end

/-- Answers a condition that has to use up all of the words. -/
def testAll (files : Files) (words : List String) : Answer Bool := do
  let (answer, rest) ← testEither files (8 * words.length + 8) words
  if rest.isEmpty then .ok answer
  else .error ((words.getD (words.length - rest.length - 1) "") ++ ": unexpected operator")

/-- Answers a condition.  What three words mean is decided by the one in the middle, if it is
an operator. -/
def test (files : Files) (words : List String) : Answer Bool :=
  match words with
  | [] => .ok false
  | [left, operator, right] =>
      if binaryOperators.contains operator then testBinary left operator right
      else if left = "(" && right = ")" then .ok (!operator.isEmpty)
      else if left = "!" then (testAll files [operator, right]).map not
      else testAll files words
  | [first, second, third, fourth] =>
      if first = "(" && fourth = ")" then testAll files [second, third]
      else if first = "!" then (testAll files [second, third, fourth]).map not
      else testAll files words
  | _ => testAll files words

/-- The program that answers a condition: by zero for yes, by one for no, and by two if it
cannot. -/
def testProgram (files : Files) (words : List String) : Work :=
  match test files words with
  | .ok answer => ⟨[], [], if answer then 0 else 1⟩
  | .error reason => .complain ("test: " ++ reason) 2

end Host
end MetricsScript
