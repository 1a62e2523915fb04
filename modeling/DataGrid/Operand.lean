import DataGrid.Double.Layout
import DataGrid.Double.Numeral
import DataGrid.Json.Read
import DataGrid.Text.Basic

namespace DataGrid

/-- The values that a filter compares with: JSON values without objects. -/
inductive Operand where
  | bool (value : Bool)
  | int (value : Int64)
  | float (value : Double)
  | str (value : String)
  | list (items : List Operand)
  | null

namespace Operand

instance : Inhabited Operand :=
  ⟨.null⟩

def kind : Operand → String
  | .bool _ => "boolean"
  | .int _ => "integer"
  | .float _ => "float"
  | .str _ => "string"
  | .list _ => "list"
  | .null => "null"

def isScalar : Operand → Bool
  | .list _ | .null => false
  | _ => true

def text? : Operand → Option String
  | .str s => some s
  | .int i => some (String.ofList (Json.writeInt i.toInt))
  | .float x => some x.plainText
  | .bool b => some (String.ofList (Json.writeBool b))
  | .list _ | .null => none

/-- The number that a scalar is or that its text names. -/
def number? : Operand → Option Double
  | .int i => some (.ofInt i.toInt)
  | .float x => some x
  | .str s => Double.parse? (Text.trim s)
  | .bool _ | .list _ | .null => none

def ofNumber (n : Json.Number) : Operand :=
  match n.toInt64? with
  | some i => .int i
  | none => .float n.toDouble

mutual

def ofJson? : Json → Option Operand
  | .null => some .null
  | .bool b => some (.bool b)
  | .num n => some (ofNumber n)
  | .str s => some (.str s)
  | .arr items => (ofJsonItems? items).map .list
  | .obj _ => none

def ofJsonItems? : List Json → Option (List Operand)
  | [] => some []
  | item :: items =>
    match ofJson? item, ofJsonItems? items with
    | some v, some vs => some (v :: vs)
    | _, _ => none

end

def bool? : Json → Option Operand
  | .bool b => some (.bool b)
  | _ => none

def int? : Json → Option Operand
  | .num n => n.toInt64?.map .int
  | _ => none

def float? : Json → Option Operand
  | .num n => some (.float n.toDouble)
  | _ => none

def str? : Json → Option Operand
  | .str s => some (.str s)
  | _ => none

def null? : Json → Option Operand
  | .null => some .null
  | _ => none

mutual

/-- The value as the first kind that it fits, of boolean, integer, float, string, list and null. -/
def firstFit? : Json → Option Operand
  | .arr items => (firstFitItems? items).map .list
  | j => (bool? j).or <| (int? j).or <| (float? j).or <| (str? j).or (null? j)

def firstFitItems? : List Json → Option (List Operand)
  | [] => some []
  | item :: items =>
    match firstFit? item, firstFitItems? items with
    | some v, some vs => some (v :: vs)
    | _, _ => none

end

def decode (source : Json.Source) (node : Json.Node) : Except Json.Fault Operand := do
  match firstFit? (← node.read source) with
  | some v => return v
  | none => throw (.mismatch (.noVariant "FilterValue"))

mutual

def toJson : Operand → Json
  | .bool b => .bool b
  | .int i => .ofInt64 i
  | .float x => .ofDouble x
  | .str s => .str s
  | .list items => .arr (toJsonItems items)
  | .null => .null

def toJsonItems : List Operand → List Json
  | [] => []
  | item :: items => toJson item :: toJsonItems items

end

end Operand

end DataGrid
