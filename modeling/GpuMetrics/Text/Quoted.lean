import GpuMetrics.Text.Digits
import GpuMetrics.Text.Printable

/-!
# Quoted text in messages

A message shows a piece of text between double quotes so that its ends and every character of it
can be told: quotes, backslashes and the usual control characters have short escapes, characters
that do not show on their own are written by code point.
-/

namespace GpuMetrics.Text

/-- How one character is written inside the quotes. -/
def quoteChar (c : Char) : List Char :=
  if c = '\x00' then ['\\', '0']
  else if c = '\t' then ['\\', 't']
  else if c = '\r' then ['\\', 'r']
  else if c = '\n' then ['\\', 'n']
  else if c = '"' then ['\\', '"']
  else if c = '\\' then ['\\', '\\']
  else if isPrintable c then [c]
  else '\\' :: 'u' :: '\x7b' :: (hexDigits c.toNat ++ ['\x7d'])

/-- The text between double quotes, escaped character by character. -/
def quoted (s : String) : String :=
  String.ofList ('"' :: (s.toList.flatMap quoteChar ++ ['"']))

/-- A list of texts, quoted and between brackets. -/
def quotedList (l : List String) : String :=
  "[" ++ String.intercalate ", " (l.map quoted) ++ "]"

end GpuMetrics.Text
