import DataGrid.Text.Unprintable
import DataGrid.Text.GraphemeExtend

namespace DataGrid.Text

def hexDigits (n : Nat) : List Char :=
  Nat.toDigits 16 n

/-- Characters that do not show on their own are written as escapes. -/
def quotedChar (c : Char) : List Char :=
  if c = '"' then ['\\', '"']
  else if c = '\\' then ['\\', '\\']
  else if c = '\n' then ['\\', 'n']
  else if c = '\r' then ['\\', 'r']
  else if c = '\t' then ['\\', 't']
  else if c = '\x00' then ['\\', '0']
  else if isGraphemeExtend c || isUnprintable c then
    ['\\', 'u', '\x7b'] ++ hexDigits c.toNat ++ ['\x7d']
  else [c]

def quoted (s : String) : String :=
  String.ofList ('"' :: s.toList.flatMap quotedChar ++ ['"'])

end DataGrid.Text
