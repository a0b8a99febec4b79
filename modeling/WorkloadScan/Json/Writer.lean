import WorkloadScan.Json.Basic
import WorkloadScan.Number.Shortest
import WorkloadScan.Text.Ascii

/-! The compact text of a JSON value: no blanks, fields in their order. -/
namespace WorkloadScan.Json

/-- Only the quote, the backslash and the control characters below the space are escaped. -/
def escapedChar (c : Char) : List Char :=
  if c = '"' then ['\\', '"']
  else if c = '\\' then ['\\', '\\']
  else if c = '\x08' then ['\\', 'b']
  else if c = '\t' then ['\\', 't']
  else if c = '\n' then ['\\', 'n']
  else if c = '\x0c' then ['\\', 'f']
  else if c = '\r' then ['\\', 'r']
  else if c.toNat < 0x20 then
    ['\\', 'u', '0', '0', Nat.digitChar (c.toNat / 16), Nat.digitChar (c.toNat % 16)]
  else [c]

def writeString (s : String) : List Char := '"' :: (s.toList.flatMap escapedChar ++ ['"'])

def Numeral.text : Numeral → String
  | .integer n => toString n
  | .float false b => b.text
  | .float true b => "-" ++ b.text

mutual

def write : Json → List Char
  | .null => "null".toList
  | .bool true => "true".toList
  | .bool false => "false".toList
  | .number n => n.text.toList
  | .string s => writeString s
  | .array items => '[' :: writeItems items
  | .object fields => '\x7b' :: writeFields fields

def writeItems : List Json → List Char
  | [] => [']']
  | [v] => write v ++ [']']
  | v :: rest => write v ++ ',' :: writeItems rest

def writeFields : List (String × Json) → List Char
  | [] => ['\x7d']
  | [(name, v)] => writeString name ++ ':' :: write v ++ ['\x7d']
  | (name, v) :: rest => writeString name ++ ':' :: write v ++ ',' :: writeFields rest

end

def compact (j : Json) : String := String.ofList (write j)

end WorkloadScan.Json
