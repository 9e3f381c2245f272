/-!
# Bodies in brackets

The body of `$(...)`, `<(...)` and `${...}` runs to the bracket that closes it.  Brackets
count only outside quotes and not after a backslash.  A body that is never closed runs to the
end of the text.
-/

namespace MetricsScript
namespace Command

/-- Which quotes the reader of a body stands in. -/
inductive Quoting where
  | bare
  | single
  | double
deriving DecidableEq, Repr

/-- A pair of brackets. -/
structure Brackets where
  opening : Char
  closing : Char
deriving DecidableEq, Repr

/-- The brackets around the body of a substitution. -/
def parentheses : Brackets := ⟨'(', ')'⟩

/-- The brackets around a parameter. -/
def braces : Brackets := ⟨'\x7b', '\x7d'⟩

/-- The quotes after a character outside quotes. -/
def Quoting.afterBare (c : Char) : Quoting :=
  if c = '\'' then .single else if c = '"' then .double else .bare

/-- Reads a body whose opening bracket has been read, `depth` further brackets being open
inside it.  Gives the body, without the bracket that closes it, and the text after that
bracket.  The depth has no bound here, where a signed counter of 32 bits would overflow. -/
def readBody (b : Brackets) : Nat → Quoting → List Char → List Char × List Char
  | _, _, [] => ([], [])
  | depth, .single, c :: cs =>
      let (body, rest) := readBody b depth (if c = '\'' then .bare else .single) cs
      (c :: body, rest)
  | depth, .double, '\\' :: c :: cs =>
      let (body, rest) := readBody b depth .double cs
      ('\\' :: c :: body, rest)
  | depth, .double, c :: cs =>
      let (body, rest) := readBody b depth (if c = '"' then .bare else .double) cs
      (c :: body, rest)
  | depth, .bare, '\\' :: c :: cs =>
      let (body, rest) := readBody b depth .bare cs
      ('\\' :: c :: body, rest)
  | depth, .bare, c :: cs =>
      if c = b.opening then
        let (body, rest) := readBody b (depth + 1) .bare cs
        (c :: body, rest)
      else if c = b.closing then
        match depth with
        | 0 => ([], cs)
        | outer + 1 =>
            let (body, rest) := readBody b outer .bare cs
            (c :: body, rest)
      else
        let (body, rest) := readBody b depth (Quoting.afterBare c) cs
        (c :: body, rest)

/-- Reading a body never lengthens the text. -/
theorem readBody_rest_le (b : Brackets) (depth : Nat) (q : Quoting) (cs : List Char) :
    (readBody b depth q cs).2.length ≤ cs.length := by
  fun_induction readBody b depth q cs <;> simp_all <;> omega

end Command
end MetricsScript
