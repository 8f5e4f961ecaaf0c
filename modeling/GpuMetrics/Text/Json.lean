import GpuMetrics.Text.Digits

/-!
# JSON strings

The text of a JSON string: quotes, backslashes and control characters are escaped, everything else
stands for itself.
-/

namespace GpuMetrics.Text

/-- How one character is written in a JSON string. -/
def jsonChar (c : Char) : List Char :=
  if c = '"' then ['\\', '"']
  else if c = '\\' then ['\\', '\\']
  else if c = '\x08' then ['\\', 'b']
  else if c = '\x0c' then ['\\', 'f']
  else if c = '\n' then ['\\', 'n']
  else if c = '\r' then ['\\', 'r']
  else if c = '\t' then ['\\', 't']
  else if c.toNat < 0x20 then
    let digits := hexDigits c.toNat
    '\\' :: 'u' :: (List.replicate (4 - digits.length) '0' ++ digits)
  else [c]

/-- A text as a JSON string. -/
def jsonString (s : String) : String :=
  String.ofList ('"' :: (s.toList.flatMap jsonChar ++ ['"']))

/-- Members as a JSON object. The values are JSON texts. -/
def jsonObject (members : List (String × String)) : String :=
  "\x7b" ++ String.intercalate "," (members.map fun m => jsonString m.1 ++ ":" ++ m.2) ++ "\x7d"

/-- Items as a JSON array. The items are JSON texts. -/
def jsonArray (items : List String) : String := "[" ++ String.intercalate "," items ++ "]"

end GpuMetrics.Text
