import Wagebook.Text.Hex
import Wagebook.Text.Hidden

/-!
A text in double quotes, so that a reader sees every character of it: quotes and backslashes are
escaped, line ends, tabs and nulls have letters, and a hidden character is spelled by its code.
-/

namespace Wagebook.Text

def quotedChar (c : Char) : List Char :=
  if c = '"' then ['\\', '"']
  else if c = '\\' then ['\\', '\\']
  else if c = '\n' then ['\\', 'n']
  else if c = '\r' then ['\\', 'r']
  else if c = '\t' then ['\\', 't']
  else if c = '\x00' then ['\\', '0']
  else if isHidden c then ['\\', 'u', '\x7b'] ++ hex c.toNat ++ ['\x7d']
  else [c]

def quoted (s : String) : String :=
  String.ofList ('"' :: s.toList.flatMap quotedChar ++ ['"'])

end Wagebook.Text
