import MetricsScript.Command.Expansion
import MetricsScript.Host.Utilities.Number

/-!
# Arithmetic of the shell

Whole numbers of 64 bits and variables are combined by the usual operators.  Division drops
the fraction, comparisons give one or zero, and an operand that does not matter is not
calculated.  The first fault ends a calculation.

The shell only serves to run tools on a machine; no theorem is about it.
-/

namespace MetricsScript
namespace Host
namespace Shell

/-- Why a calculation has no value. -/
inductive ArithmeticFault where
  | divisionByZero
  /-- A number, a variable or a parenthesis is missing. -/
  | operandMissing
  | parenthesisMissing
  | colonMissing
  /-- Something is left over behind the expression. -/
  | endMissing
  /-- The value of a variable is not a number. -/
  | notANumber (value : String)
deriving DecidableEq, Repr

/-- What is said of a fault in an expression. -/
def ArithmeticFault.message (expression : String) (fault : ArithmeticFault) : String :=
  let inExpression (reason : String) :=
    "arithmetic expression: " ++ reason ++ ": \"" ++ expression ++ "\""
  match fault with
  | .divisionByZero => inExpression "division by zero"
  | .operandMissing => inExpression "expecting primary"
  | .parenthesisMissing => inExpression "expecting ')'"
  | .colonMissing => inExpression "expecting ':'"
  | .endMissing => inExpression "expecting EOF"
  | .notANumber value => "Illegal number: " ++ value

/-- An operator whose operands are both calculated. -/
inductive Operator where
  | times
  | over
  | remainder
  | plus
  | minus
  | shiftLeft
  | shiftRight
  | less
  | greater
  | atMost
  | atLeast
  | equal
  | unequal
  | bitAnd
  | bitXor
  | bitOr
deriving DecidableEq, Repr

/-- An expression. -/
inductive Expression where
  | number (n : Int)
  | variable (name : String)
  | negative (operand : Expression)
  | complement (operand : Expression)
  | opposite (operand : Expression)
  | binary (operator : Operator) (left right : Expression)
  | both (left right : Expression)
  | either (left right : Expression)
  | choice (condition yes no : Expression)
  /-- Gives a variable a value, combined with the one it has if there is an operator. -/
  | assign (name : String) (operator : Option Operator) (value : Expression)
deriving Repr

/-- A whole number as it is kept in 64 bits. -/
def wrapped (n : Int) : Int :=
  (BitVec.ofInt 64 n).toInt

/-- What two numbers come to bit by bit. -/
def bitwise (f : BitVec 64 → BitVec 64 → BitVec 64) (a b : Int) : Int :=
  (f (BitVec.ofInt 64 a) (BitVec.ofInt 64 b)).toInt

/-- One for yes and zero for no. -/
def truthOf (b : Bool) : Int :=
  if b then 1 else 0

/-- What an operator makes of two numbers. -/
def Operator.apply (operator : Operator) (a b : Int) : Except ArithmeticFault Int :=
  match operator with
  | .times => .ok (wrapped (a * b))
  | .over => if b = 0 then .error .divisionByZero else .ok (wrapped (a.tdiv b))
  | .remainder => if b = 0 then .error .divisionByZero else .ok (wrapped (a.tmod b))
  | .plus => .ok (wrapped (a + b))
  | .minus => .ok (wrapped (a - b))
  | .shiftLeft => .ok (wrapped (a * Int.pow 2 (b.emod 64).toNat))
  | .shiftRight => .ok (a.fdiv (Int.pow 2 (b.emod 64).toNat))
  | .less => .ok (truthOf (a < b))
  | .greater => .ok (truthOf (b < a))
  | .atMost => .ok (truthOf (a ≤ b))
  | .atLeast => .ok (truthOf (b ≤ a))
  | .equal => .ok (truthOf (a = b))
  | .unequal => .ok (truthOf (a ≠ b))
  | .bitAnd => .ok (bitwise (· &&& ·) a b)
  | .bitXor => .ok (bitwise (· ^^^ ·) a b)
  | .bitOr => .ok (bitwise (· ||| ·) a b)

/-- The symbols of expressions.  A symbol stands before the symbols that it begins with. -/
def symbols : List String :=
  ["<<=", ">>=", "<<", ">>", "<=", ">=", "==", "!=", "&&", "||", "+=", "-=", "*=", "/=", "%=",
    "&=", "^=", "|=", "+", "-", "*", "/", "%", "<", ">", "&", "^", "|", "!", "~", "(", ")", "?",
    ":", "="]

/-- The operators of one rank bind alike and from the left.  The ranks that bind less come
first. -/
def operatorRanks : List (List (String × Operator)) :=
  [[("|", .bitOr)], [("^", .bitXor)], [("&", .bitAnd)], [("==", .equal), ("!=", .unequal)],
    [("<", .less), (">", .greater), ("<=", .atMost), (">=", .atLeast)],
    [("<<", .shiftLeft), (">>", .shiftRight)], [("+", .plus), ("-", .minus)],
    [("*", .times), ("/", .over), ("%", .remainder)]]

/-- The symbols that give a variable a value. -/
def assignments : List (String × Option Operator) :=
  [("=", none), ("+=", some .plus), ("-=", some .minus), ("*=", some .times),
    ("/=", some .over), ("%=", some .remainder), ("<<=", some .shiftLeft),
    (">>=", some .shiftRight), ("&=", some .bitAnd), ("^=", some .bitXor),
    ("|=", some .bitOr)]

/-- The symbol at the front of a text, and the text behind it. -/
def readSymbol (cs : List Char) : String × List Char :=
  let cs := skipSpaces cs
  match symbols.find? fun symbol => symbol.toList.isPrefixOf cs with
  | some symbol => (symbol, cs.drop symbol.length)
  | none => ("", cs)

/-- The greatest number of 64 bits. -/
def greatest : Nat := Nat.pow 2 63 - 1

/-- The number that the value of a variable is.  Nothing counts as zero. -/
def numberOfValue (value : String) : Except ArithmeticFault Int :=
  let number := readSigned value.toList
  if (skipSpaces number.rest).isEmpty then .ok (max (-greatest - 1) (min greatest number.value))
  else .error (.notANumber value)

mutual

/-- Reads an expression.  The fuel bounds the depth. -/
def readExpressionAt : Nat → List Char → Except ArithmeticFault (Expression × List Char)
  | 0, _ => .error .operandMissing
  | fuel + 1, cs => do
      let start := skipSpaces cs
      let name := start.takeWhile Command.isNameChar
      let (symbol, rest) := readSymbol (start.drop name.length)
      match name.head?.filter Command.isNameStart, assignments.lookup symbol with
      | some _, some operator =>
          let (value, rest) ← readExpressionAt fuel rest
          .ok (.assign (String.ofList name) operator value, rest)
      | _, _ => readChoice fuel cs

/-- Reads a choice between two expressions, or an expression that binds more. -/
def readChoice : Nat → List Char → Except ArithmeticFault (Expression × List Char)
  | 0, _ => .error .operandMissing
  | fuel + 1, cs => do
      let (condition, rest) ← readEither fuel cs
      match readSymbol rest with
      | ("?", behind) =>
          let (yes, rest) ← readExpressionAt fuel behind
          match readSymbol rest with
          | (":", behind) =>
              let (no, rest) ← readChoice fuel behind
              .ok (.choice condition yes no, rest)
          | _ => .error .colonMissing
      | _ => .ok (condition, rest)

/-- Reads operands of which one has to hold. -/
def readEither : Nat → List Char → Except ArithmeticFault (Expression × List Char)
  | 0, _ => .error .operandMissing
  | fuel + 1, cs => do
      let (left, rest) ← readBoth fuel cs
      match readSymbol rest with
      | ("||", behind) =>
          let (right, rest) ← readEither fuel behind
          .ok (.either left right, rest)
      | _ => .ok (left, rest)

/-- Reads operands that all have to hold. -/
def readBoth : Nat → List Char → Except ArithmeticFault (Expression × List Char)
  | 0, _ => .error .operandMissing
  | fuel + 1, cs => do
      let (left, rest) ← readBinary fuel operatorRanks cs
      match readSymbol rest with
      | ("&&", behind) =>
          let (right, rest) ← readBoth fuel behind
          .ok (.both left right, rest)
      | _ => .ok (left, rest)

/-- Reads operands between operators of the given ranks. -/
def readBinary : Nat → List (List (String × Operator)) → List Char →
    Except ArithmeticFault (Expression × List Char)
  | 0, _, _ => .error .operandMissing
  | fuel + 1, [], cs => readUnary fuel cs
  | fuel + 1, rank :: ranks, cs => do
      let (left, rest) ← readBinary fuel ranks cs
      readMore fuel rank ranks left rest

/-- Goes on behind a left operand. -/
def readMore : Nat → List (String × Operator) → List (List (String × Operator)) → Expression →
    List Char → Except ArithmeticFault (Expression × List Char)
  | 0, _, _, _, _ => .error .operandMissing
  | fuel + 1, rank, ranks, left, cs => do
      let (symbol, behind) := readSymbol cs
      match rank.lookup symbol with
      | some operator =>
          let (right, rest) ← readBinary fuel ranks behind
          readMore fuel rank ranks (.binary operator left right) rest
      | none => .ok (left, cs)

/-- Reads a number, a variable, a sign before an operand, or what is in parentheses. -/
def readUnary : Nat → List Char → Except ArithmeticFault (Expression × List Char)
  | 0, _ => .error .operandMissing
  | fuel + 1, cs => do
      match readSymbol cs with
      | ("(", behind) =>
          let (inner, rest) ← readExpressionAt fuel behind
          match readSymbol rest with
          | (")", rest) => .ok (inner, rest)
          | _ => .error .parenthesisMissing
      | ("-", behind) =>
          let (operand, rest) ← readUnary fuel behind
          .ok (.negative operand, rest)
      | ("+", behind) => readUnary fuel behind
      | ("!", behind) =>
          let (operand, rest) ← readUnary fuel behind
          .ok (.opposite operand, rest)
      | ("~", behind) =>
          let (operand, rest) ← readUnary fuel behind
          .ok (.complement operand, rest)
      | _ =>
          let cs := skipSpaces cs
          let name := cs.takeWhile Command.isNameChar
          match name with
          | [] => .error .operandMissing
          | c :: _ =>
              if Text.isDigit c then
                let (n, rest) := readNumber cs
                .ok (.number (min n greatest), rest)
              else .ok (.variable (String.ofList name), cs.drop name.length)

end

/-- The expression that a text is. -/
def Expression.ofText (text : String) : Except ArithmeticFault Expression := do
  let (expression, rest) ← readExpressionAt (32 * text.length + 32) text.toList
  if (skipSpaces rest).isEmpty then .ok expression else .error .endMissing

/-- The values that variables were given in the course of a calculation, the last first. -/
abbrev Given := List (String × Int)

/-- The value of a variable in a calculation. -/
def variableValue (value : String → Option String) (given : Given) (name : String) :
    Except ArithmeticFault Int :=
  match given.lookup name with
  | some n => .ok n
  | none => numberOfValue ((value name).getD "")

/-- The value of an expression. -/
def Expression.value (value : String → Option String) :
    Expression → Given → Except ArithmeticFault (Int × Given)
  | .number n, given => .ok (n, given)
  | .variable name, given => do .ok (← variableValue value given name, given)
  | .negative operand, given => do
      let (a, given) ← operand.value value given
      .ok (wrapped (-a), given)
  | .complement operand, given => do
      let (a, given) ← operand.value value given
      .ok (-a - 1, given)
  | .opposite operand, given => do
      let (a, given) ← operand.value value given
      .ok (truthOf (a = 0), given)
  | .binary operator left right, given => do
      let (a, given) ← left.value value given
      let (b, given) ← right.value value given
      .ok (← operator.apply a b, given)
  | .both left right, given => do
      let (a, given) ← left.value value given
      if a = 0 then .ok (0, given)
      else
        let (b, given) ← right.value value given
        .ok (truthOf (b ≠ 0), given)
  | .either left right, given => do
      let (a, given) ← left.value value given
      if a ≠ 0 then .ok (1, given)
      else
        let (b, given) ← right.value value given
        .ok (truthOf (b ≠ 0), given)
  | .choice condition yes no, given => do
      let (a, given) ← condition.value value given
      if a ≠ 0 then yes.value value given else no.value value given
  | .assign name operator operand, given => do
      let (b, given) ← operand.value value given
      match operator with
      | none => .ok (b, (name, b) :: given)
      | some operator =>
          let c ← operator.apply (← variableValue value given name) b
          .ok (c, (name, c) :: given)

/-- What the text of an expression comes to, and the values that it gives to variables. -/
def arithmetic (value : String → Option String) (text : String) :
    Except ArithmeticFault (Int × Given) := do
  (← Expression.ofText text).value value []

end Shell
end Host
end MetricsScript
