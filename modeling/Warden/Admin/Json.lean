/-
The JSON that the administrative interface speaks.

# Contents

A `Json` is a whole number, a flag, a text, a list or an object whose
members stand in the order in which they are written. `compact` writes
it without blanks, `pretty` on several lines, each level two blanks
deeper than the one around it.
-/
import Warden.Text.Hex

namespace Warden

open Text

inductive Json where
  | number (n : Int)
  | flag (b : Bool)
  | text (s : String)
  | list (items : List Json)
  | object (members : List (String × Json))

namespace Json

/-- A character as it stands between quotes. -/
def quotedChar (c : Char) : List Char :=
  match c with
  | '"' => ['\\', '"']
  | '\\' => ['\\', '\\']
  | '\x08' => ['\\', 'b']
  | '\t' => ['\\', 't']
  | '\n' => ['\\', 'n']
  | '\x0c' => ['\\', 'f']
  | '\r' => ['\\', 'r']
  | c =>
    if c.toNat < 0x20 then ['\\', 'u', '0', '0'] ++ hexByte (UInt8.ofNat c.toNat) else [c]

/-- A text between quotes. -/
def quoted (s : String) : String :=
  String.ofList ('"' :: (s.toList.flatMap quotedChar ++ ['"']))

-- ================================================================= compact

mutual

/-- A value without blanks. -/
def compact : Json → String
  | number n => toString n
  | flag b => if b then "true" else "false"
  | text s => quoted s
  | list items => "[" ++ String.intercalate "," (compactItems items) ++ "]"
  | object members => "\x7b" ++ String.intercalate "," (compactMembers members) ++ "\x7d"

def compactItems : List Json → List String
  | [] => []
  | v :: r => compact v :: compactItems r

def compactMembers : List (String × Json) → List String
  | [] => []
  | (name, v) :: r => (quoted name ++ ":" ++ compact v) :: compactMembers r

end

-- ================================================================== pretty

/-- Blanks of a level. -/
def indent (depth : Nat) : String := String.ofList (List.replicate (2 * depth) ' ')

/-- Parts on lines of their own between brackets. -/
def block (depth : Nat) (opening closing : String) (parts : List String) : String :=
  if parts.isEmpty then opening ++ closing
  else
    opening ++ "\n" ++ String.intercalate ",\n" (parts.map (indent (depth + 1) ++ ·)) ++ "\n"
      ++ indent depth ++ closing

mutual

/-- A value on several lines; its own first line is already indented. -/
def prettyAt (depth : Nat) : Json → String
  | number n => toString n
  | flag b => if b then "true" else "false"
  | text s => quoted s
  | list items => block depth "[" "]" (prettyItems (depth + 1) items)
  | object members => block depth "\x7b" "\x7d" (prettyMembers (depth + 1) members)

def prettyItems (depth : Nat) : List Json → List String
  | [] => []
  | v :: r => prettyAt depth v :: prettyItems depth r

def prettyMembers (depth : Nat) : List (String × Json) → List String
  | [] => []
  | (name, v) :: r => (quoted name ++ ": " ++ prettyAt depth v) :: prettyMembers depth r

end

/-- A value on several lines. -/
def pretty (v : Json) : String := prettyAt 0 v

end Json

end Warden
