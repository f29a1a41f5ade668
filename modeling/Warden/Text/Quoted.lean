/-
Quoted text: how a text is shown inside a message.

# Contents

`quoted s` puts a text between double quotes so that nothing in it can
be mistaken for the message around it: quotes and backslashes are
escaped, line ends, tabs and NUL have short names, and every other
character that shows nothing of its own or would join the one before it
is written by its number. `quotedList` shows a list of texts.
-/
import Warden.Text.Hex
import Warden.Text.Unprintable

namespace Warden.Text

/-- One character as it stands between quotes. -/
def quotedChar (c : Char) : List Char :=
  match c with
  | '\x00' => ['\\', '0']
  | '\t' => ['\\', 't']
  | '\n' => ['\\', 'n']
  | '\r' => ['\\', 'r']
  | '"' => ['\\', '"']
  | '\\' => ['\\', '\\']
  | c =>
    if isGraphemeExtend c || isUnprintable c then
      ['\\', 'u', '{'] ++ hexNumber c.toNat ++ ['}']
    else [c]

/-- A text between double quotes. -/
def quoted (s : String) : String :=
  String.ofList ('"' :: (s.toList.flatMap quotedChar ++ ['"']))

/-- A list of quoted texts between square brackets. -/
def quotedList (l : List String) : String :=
  "[" ++ String.intercalate ", " (l.map quoted) ++ "]"

end Warden.Text
