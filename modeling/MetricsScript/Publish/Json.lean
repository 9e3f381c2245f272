import MetricsScript.Run.Failure

/-!
# Records as JSON

The records of a run are published as one compact JSON array, with the members of each
record in a fixed order.  Only quotes, backslashes and control characters are escaped, so the
text is always a single line.
-/

namespace MetricsScript
namespace Publish

/-- The sixteen digits of a code point's last places. -/
def hexDigit (n : Nat) : Char :=
  Nat.digitChar (n % 16)

/-- What stands for a character in a JSON string. -/
def jsonChar (c : Char) : List Char :=
  if c = '"' then ['\\', '"']
  else if c = '\\' then ['\\', '\\']
  else if c = '\x08' then ['\\', 'b']
  else if c = '\x0C' then ['\\', 'f']
  else if c = '\n' then ['\\', 'n']
  else if c = '\r' then ['\\', 'r']
  else if c = '\t' then ['\\', 't']
  else if c.toNat < 0x20 then
    ['\\', 'u', '0', '0', hexDigit (c.toNat / 16), hexDigit c.toNat]
  else [c]

/-- A text as a JSON string. -/
def jsonString (s : String) : List Char :=
  '"' :: s.toList.flatMap jsonChar ++ ['"']

/-- A member of a JSON object, whose name needs no escapes. -/
def jsonMember (name : String) (value : List Char) : List Char :=
  '"' :: name.toList ++ ['"', ':'] ++ value

/-- Texts with commas between them. -/
def jsonItems : List (List Char) → List Char
  | [] => []
  | [item] => item
  | item :: items => item ++ ',' :: jsonItems items

/-- A record as a JSON object. -/
def jsonRecord (record : Run.Record) : List Char :=
  '\x7b' :: jsonItems
    [jsonMember "command" (jsonString record.command),
      jsonMember "code" (toString record.code.toInt).toList,
      jsonMember "stdout" (jsonString record.stdout),
      jsonMember "stderr" (jsonString record.stderr)] ++ ['\x7d']

/-- Records as a JSON array. -/
def json (records : List Run.Record) : String :=
  String.ofList ('[' :: jsonItems (records.map jsonRecord) ++ [']'])

end Publish
end MetricsScript
