import DataGrid.Double.Layout
import DataGrid.Json.Printer
import DataGrid.Sql.Dialect

namespace DataGrid.Sql

inductive Param where
  | bool (value : Bool)
  | int (value : Int64)
  | float (value : Double)
  | str (value : String)
  /-- One of the constants of a condition that holds always or never. -/
  | constant (value : Nat)
  /-- A bound of a window. -/
  | bound (value : Nat)

inductive Piece where
  | text (words : String)
  | ident (name : String)
  | param (value : Param)

/-- A statement with its values apart. -/
structure Statement where
  sql : String
  values : List Param

def quoteDoubled (quote : Char) (s : String) : String :=
  String.ofList (quote :: s.toList.flatMap (fun c => if c = quote then [c, c] else [c]) ++ [quote])

def ident (name : String) : String :=
  quoteDoubled '"' name

def escapedChar (c : Char) : List Char :=
  if c = '\\' then ['\\', '\\']
  else if c = '"' then ['\\', '"']
  else if c = '\x27' then ['\\', '\x27']
  else if c = '\x00' then ['\\', '0']
  else if c = '\x08' then ['\\', 'b']
  else if c = '\t' then ['\\', 't']
  else if c = '\x1a' then ['\\', 'z']
  else if c = '\n' then ['\\', 'n']
  else if c = '\r' then ['\\', 'r']
  else [c]

/-- A text with a backslash in it is marked as one with escapes. -/
def escaped (s : String) : String :=
  let body := s.toList.flatMap escapedChar
  let quoted := String.ofList ('\x27' :: body ++ ['\x27'])
  if body.contains '\\' then "E" ++ quoted else quoted

def Dialect.stringLiteral : Dialect → String → String
  | .postgres, s => escaped s
  | .sqlite, s => quoteDoubled '\x27' s

def Param.literal (d : Dialect) : Param → String
  | .bool b => if b then "TRUE" else "FALSE"
  | .int i => String.ofList (Json.writeInt i.toInt)
  | .float x => x.plainText
  | .str s => d.stringLiteral s
  | .constant n | .bound n => toString n

/-- Placeholders are numbered from 1, or all alike. -/
def Dialect.placeholder : Dialect → Nat → String
  | .postgres, index => "$" ++ toString index
  | .sqlite, _ => "?"

def Piece.value? : Piece → Option Param
  | .param value => some value
  | _ => none

def values (pieces : List Piece) : List Param :=
  pieces.filterMap Piece.value?

/-- The texts of pieces, of which the first placeholder takes the number `index`. -/
def templateFrom (d : Dialect) (index : Nat) : List Piece → List String
  | [] => []
  | .text words :: pieces => words :: templateFrom d index pieces
  | .ident name :: pieces => ident name :: templateFrom d index pieces
  | .param _ :: pieces => d.placeholder index :: templateFrom d (index + 1) pieces

def statement (d : Dialect) (pieces : List Piece) : Statement :=
  ⟨String.join (templateFrom d 1 pieces), values pieces⟩

def Piece.inline (d : Dialect) : Piece → String
  | .text words => words
  | .ident name => Sql.ident name
  | .param value => value.literal d

def inline (d : Dialect) (pieces : List Piece) : String :=
  String.join (pieces.map (Piece.inline d))

end DataGrid.Sql
