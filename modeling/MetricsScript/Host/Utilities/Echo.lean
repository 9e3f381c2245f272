import MetricsScript.Host.Utilities.Printf

/-!
# Printing arguments

Arguments are printed with blanks between them and a line end behind them.  A shell that does
this itself always reads escapes; the program reads them if it is told to.

This only serves to run tools on a machine; no theorem is about it.
-/

namespace MetricsScript
namespace Host

/-- Prints arguments, their escapes having been read by a printer. -/
def echoEscaped (printer : Printer) (silent : Bool) (words : List String) : Work :=
  let (bytes, goesOn) := unescape printer.escape (" ".intercalate words)
  .print (if silent || !goesOn then bytes else bytes ++ [10])

/-- Prints arguments as a shell does. -/
def shellEcho : List String → Work
  | "-n" :: words => echoEscaped (.shell "") true words
  | words => echoEscaped (.shell "") false words

/-- The letters of an argument that is made of options. -/
def echoOptions? (argument : String) : Option (List Char) :=
  match argument.toList with
  | '-' :: c :: cs =>
      if (c :: cs).all fun c => c == 'n' || c == 'e' || c == 'E' then some (c :: cs) else none
  | _ => none

/-- Prints arguments as the program does, after the options that were read so far. -/
def echoFrom (silent escaped : Bool) : List String → Work
  | [] => .print (if silent then [] else [10])
  | word :: words =>
      match echoOptions? word with
      | some letters =>
          let escaped := letters.foldl
            (fun escaped c => if c = 'e' then true else if c = 'E' then false else escaped)
            escaped
          echoFrom (silent || letters.contains 'n') escaped words
      | none =>
          if escaped then echoEscaped .program silent (word :: words)
          else
            let bytes := bytesOf (" ".intercalate (word :: words))
            .print (if silent then bytes else bytes ++ [10])

/-- Prints arguments as the program does. -/
def programEcho (arguments : List String) : Work :=
  echoFrom false false arguments

end Host
end MetricsScript
