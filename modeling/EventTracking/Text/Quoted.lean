import EventTracking.Text.Digit
import EventTracking.Text.Printable

/-!
This module contains the quoted form of a text that messages use to show a value unambiguously:
between single quotes, or between double quotes when the text holds a single quote and no double
one, with a backslash before the quote and the backslash and escapes for what is not printable.
-/

namespace EventTracking.Text

/-- The quotation mark that needs the fewer escapes; the single one if both do. -/
def quoteFor (cs : List Char) : Char :=
  if cs.contains '\'' && !cs.contains '"' then '"' else '\''

def quoteChar (quote : Char) (c : Char) : List Char :=
  if c == quote || c == '\\' then ['\\', c]
  else if c == '\n' then ['\\', 'n']
  else if c == '\r' then ['\\', 'r']
  else if c == '\t' then ['\\', 't']
  else if isPrintable c then [c]
  else if c.toNat < 0x100 then '\\' :: 'x' :: hexChars 2 c.toNat
  else if c.toNat < 0x10000 then '\\' :: 'u' :: hexChars 4 c.toNat
  else '\\' :: 'U' :: hexChars 8 c.toNat

def quote (s : String) : String :=
  let q := quoteFor s.toList
  String.ofList (q :: s.toList.flatMap (quoteChar q) ++ [q])

end EventTracking.Text
