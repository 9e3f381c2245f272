/-!
# Options of programs

Options are letters behind a hyphen, several of them in one argument if they take no value, or
long names behind two hyphens.  A value follows its option in the same argument or in the next
one.

This only serves to run tools on a machine; no theorem is about it.
-/

namespace MetricsScript
namespace Host

/-- The options that a program knows. -/
structure OptionTable where
  /-- The letters of the options without a value. -/
  flags : List Char
  /-- The letters of the options with a value. -/
  valued : List Char
  /-- The letters that long names stand for. -/
  long : List (String × Char)
  /-- Whether options may stand behind operands. -/
  mixed : Bool

/-- An option that was given, and its value. -/
structure GivenOption where
  letter : Char
  value : String
deriving DecidableEq, Repr

/-- Reads the letters of one argument.  The arguments behind it are given back as far as they
are left. -/
def OptionTable.readLetters (table : OptionTable) (more : List String) :
    List Char → Except String (List GivenOption × List String)
  | [] => .ok ([], more)
  | c :: cs =>
      if table.flags.contains c then
        (table.readLetters more cs).map fun (given, rest) => (⟨c, ""⟩ :: given, rest)
      else if table.valued.contains c then
        match cs, more with
        | _ :: _, _ => .ok ([⟨c, String.ofList cs⟩], more)
        | [], value :: rest => .ok ([⟨c, value⟩], rest)
        | [], [] => .error ("option requires an argument -- '" ++ c.toString ++ "'")
      else .error ("invalid option -- '" ++ c.toString ++ "'")

/-- Reads a long option. -/
def OptionTable.readLong (table : OptionTable) (more : List String) (cs : List Char) :
    Except String (List GivenOption × List String) :=
  let name := String.ofList (cs.takeWhile (· != '='))
  match table.long.lookup name with
  | none => .error ("unrecognized option '--" ++ String.ofList cs ++ "'")
  | some letter =>
      if table.flags.contains letter then .ok ([⟨letter, ""⟩], more)
      else
        match cs.dropWhile (· != '='), more with
        | _ :: value, _ => .ok ([⟨letter, String.ofList value⟩], more)
        | [], value :: rest => .ok ([⟨letter, value⟩], rest)
        | [], [] => .error ("option '--" ++ name ++ "' requires an argument")

/-- Reads arguments: the options among them, and the operands.  The fuel is more than their
number. -/
def OptionTable.readFrom (table : OptionTable) :
    Nat → List String → Except String (List GivenOption × List String)
  | 0, _ | _, [] => .ok ([], [])
  | _, "--" :: operands => .ok ([], operands)
  | fuel + 1, argument :: more =>
      let goOn (read : Except String (List GivenOption × List String)) := do
        let (given, rest) ← read
        let (others, operands) ← table.readFrom fuel rest
        .ok (given ++ others, operands)
      match argument.toList with
      | '-' :: '-' :: cs => goOn (table.readLong more cs)
      | '-' :: c :: cs => goOn (table.readLetters more (c :: cs))
      | _ =>
          if table.mixed then
            (table.readFrom fuel more).map fun (given, operands) =>
              (given, argument :: operands)
          else .ok ([], argument :: more)

/-- Reads arguments: the options among them, and the operands. -/
def OptionTable.read (table : OptionTable) (arguments : List String) :
    Except String (List GivenOption × List String) :=
  table.readFrom (arguments.length + 1) arguments

/-- Whether an option was given. -/
def isGiven (given : List GivenOption) (letter : Char) : Bool :=
  given.any fun option => option.letter == letter

end Host
end MetricsScript
