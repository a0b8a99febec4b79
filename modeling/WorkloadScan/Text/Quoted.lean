import WorkloadScan.Text.Ascii
import WorkloadScan.Text.Unprintable

/-! Quoted text for messages: what would end the quotation or could not be seen is escaped. -/
namespace WorkloadScan.Text

def escapeUnprintable (c : Char) : List Char :=
  if isUnprintable c then '\\' :: 'u' :: '\x7b' :: (hex c.toNat ++ ['\x7d']) else [c]

/-- Five characters have an escape of one letter. The single quote is left alone. -/
def escaped (c : Char) : List Char :=
  if c = '\x00' then ['\\', '0']
  else if c = '\t' then ['\\', 't']
  else if c = '\r' then ['\\', 'r']
  else if c = '\n' then ['\\', 'n']
  else if c = '"' then ['\\', '"']
  else if c = '\\' then ['\\', '\\']
  else escapeUnprintable c

def quoted (s : String) : String :=
  String.ofList ('"' :: (s.toList.flatMap escaped ++ ['"']))

def bracketed (items : List String) : String := "[" ++ ", ".intercalate items ++ "]"

end WorkloadScan.Text
