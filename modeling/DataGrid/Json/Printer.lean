import DataGrid.Json.Basic
import DataGrid.Double.Layout
import DataGrid.Text.Basic

namespace DataGrid.Json

open Text

def escapedChar (c : Char) : List Char :=
  if c = '"' then ['\\', '"']
  else if c = '\\' then ['\\', '\\']
  else if c = '\n' then ['\\', 'n']
  else if c = '\r' then ['\\', 'r']
  else if c = '\t' then ['\\', 't']
  else if c = '\x08' then ['\\', 'b']
  else if c = '\x0c' then ['\\', 'f']
  else if c < ' ' then '\\' :: 'u' :: hexPadded 4 c.toNat
  else [c]

def writeString (s : String) : List Char :=
  '"' :: s.toList.flatMap escapedChar ++ ['"']

def writeInt (i : Int) : List Char :=
  if i < 0 then '-' :: Nat.toDigits 10 i.natAbs else Nat.toDigits 10 i.natAbs

def Number.write : Number → List Char
  | .int i => writeInt i.val
  | .real x => x.write .row

def Number.text (n : Number) : String :=
  String.ofList n.write

def writeBool (b : Bool) : List Char :=
  (if b then "true" else "false").toList

/-- The parts of a list or an object between its brackets, with a separator after all but the
last. -/
def separated (separator : List Char) : List (List Char) → List Char
  | [] => []
  | [part] => part
  | part :: parts => part ++ separator ++ separated separator parts

mutual

def write : Json → List Char
  | .null => "null".toList
  | .bool b => writeBool b
  | .num n => n.write
  | .str s => writeString s
  | .arr items => '[' :: separated [','] (writeItems items) ++ [']']
  | .obj fields => '\x7b' :: separated [','] (writeFields fields) ++ ['\x7d']

def writeItems : List Json → List (List Char)
  | [] => []
  | item :: items => item.write :: writeItems items

def writeFields : List (String × Json) → List (List Char)
  | [] => []
  | (name, value) :: fields => (writeString name ++ ':' :: value.write) :: writeFields fields

end

def compact (j : Json) : String :=
  String.ofList j.write

def newline (level : Nat) : List Char :=
  '\n' :: List.replicate (2 * level) ' '

/-- Parts one a line inside brackets; without parts the brackets close at once. -/
def block (opening closing : Char) (level : Nat) (parts : List (List Char)) : List Char :=
  match parts with
  | [] => [opening, closing]
  | _ =>
    opening :: newline (level + 1) ++ separated (',' :: newline (level + 1)) parts ++
      newline level ++ [closing]

mutual

def writePretty (level : Nat) : Json → List Char
  | .arr items => block '[' ']' level (prettyItems (level + 1) items)
  | .obj fields => block '\x7b' '\x7d' level (prettyFields (level + 1) fields)
  | .null => "null".toList
  | .bool b => writeBool b
  | .num n => n.write
  | .str s => writeString s

def prettyItems (level : Nat) : List Json → List (List Char)
  | [] => []
  | item :: items => item.writePretty level :: prettyItems level items

def prettyFields (level : Nat) : List (String × Json) → List (List Char)
  | [] => []
  | (name, value) :: fields =>
    (writeString name ++ ':' :: ' ' :: value.writePretty level) :: prettyFields level fields

end

def pretty (j : Json) : String :=
  String.ofList (j.writePretty 0)

end DataGrid.Json
