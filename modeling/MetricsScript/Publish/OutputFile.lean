import MetricsScript.Host.Files
import MetricsScript.Text.Utf8

/-!
# The output file

The host of a workflow reads named outputs from a file.  An entry opens with its name and a
delimiter of its own choice, and ends at the line that holds nothing but the delimiter, so
a value may have any number of lines as long as the delimiter is not in it.
-/

namespace MetricsScript
namespace Publish

/-- Whether the characters of `needle` stand somewhere in a row. -/
def occursIn (needle : List Char) : List Char → Bool
  | [] => needle.isEmpty
  | c :: cs => needle.isPrefixOf (c :: cs) || occursIn needle cs

/-- Why an output was not published. -/
inductive OutputError where
  /-- The delimiter stands in the name or the value of the entry. -/
  | delimiterInside (delimiter : String)
  /-- The file could not be written. -/
  | file (cause : SystemError)
deriving DecidableEq, Repr

/-- The error in words. -/
def OutputError.message : OutputError → String
  | .delimiterInside delimiter =>
      "unexpected input: output value contains the delimiter " ++ delimiter
  | .file cause => cause.message

/-- The entry for an output. -/
def outputEntry (name value delimiter : String) : Except OutputError String :=
  if occursIn delimiter.toList name.toList || occursIn delimiter.toList value.toList then
    .error (.delimiterInside delimiter)
  else .ok (name ++ "<<" ++ delimiter ++ "\n" ++ value ++ "\n" ++ delimiter ++ "\n")

/-- What has become of an output that was to be published. -/
structure Addition where
  /-- The files afterwards.  One of them may hold a part of the entry. -/
  files : Host.Files
  /-- What came out on standard output because the path leads there. -/
  printed : String := ""
  error? : Option OutputError := none
deriving DecidableEq, Repr

/-- Appends an output at a path.  An entry that is refused is not begun. -/
def addOutput (files : Host.Files) (path name value delimiter : String) : Addition :=
  match outputEntry name value delimiter with
  | .error error => { files, error? := some error }
  | .ok entry =>
      let appended := files.extend path (Text.Utf8.encode entry)
      { files := appended.files
        printed := if appended.shown then entry else ""
        error? := appended.cause?.map .file }

/-- The files when an output was appended at a path, if it was as a whole. -/
def writeOutput (files : Host.Files) (path name value delimiter : String) :
    Except OutputError Host.Files :=
  let added := addOutput files path name value delimiter
  match added.error? with
  | none => .ok added.files
  | some error => .error error

end Publish
end MetricsScript
