import DataGrid.Double.Basic

namespace DataGrid

namespace Json

/-- A whole number that 64 bits hold, signed or unsigned. -/
structure Integer where
  val : Int
  lower : -0x8000000000000000 ≤ val
  upper : val < 0x10000000000000000
deriving DecidableEq

inductive Number where
  | int (value : Integer)
  | real (value : Double.Finite)
deriving DecidableEq

end Json

/-- The fields of an object are held in the order of their names, each name once. -/
inductive Json where
  | null
  | bool (value : Bool)
  | num (value : Json.Number)
  | str (value : String)
  | arr (items : List Json)
  | obj (fields : List (String × Json))

namespace Json

instance : Inhabited Json :=
  ⟨.null⟩

def Integer.ofInt? (i : Int) : Option Integer :=
  if h : -0x8000000000000000 ≤ i ∧ i < 0x10000000000000000 then some ⟨i, h.1, h.2⟩ else none

def Number.toDouble : Number → Double
  | .int i => .ofInt i.val
  | .real x => .finite x

def Number.toInt64? : Number → Option Int64
  | .int i => if i.val < 0x8000000000000000 then some (.ofInt i.val) else none
  | .real _ => none

def Number.toNat? : Number → Option Nat
  | .int i => if 0 ≤ i.val then some i.val.toNat else none
  | .real _ => none

/-- A later field of the same name replaces an earlier one. -/
def insertField (name : String) (value : Json) : List (String × Json) → List (String × Json)
  | [] => [(name, value)]
  | (n, v) :: fields =>
    if name < n then (name, value) :: (n, v) :: fields
    else if name = n then (name, value) :: fields
    else (n, v) :: insertField name value fields

def ofFields (fields : List (String × Json)) : Json :=
  .obj (fields.foldl (fun acc (name, value) => insertField name value acc) [])

def get? (name : String) : Json → Option Json
  | .obj fields => fields.lookup name
  | _ => none

def ofInt64 (i : Int64) : Json :=
  .num (.int ⟨i.toInt, Int64.le_toInt i, Int.lt_trans (Int64.toInt_lt i) (by decide)⟩)

/-- A whole number of 64 bits without a sign; a larger one is held at the largest. -/
def ofNat (n : Nat) : Json :=
  .num (.int ⟨(min n 0xFFFFFFFFFFFFFFFF : Nat), by omega, by omega⟩)

/-- A number that is not finite has no JSON form, and null stands for it. -/
def ofDouble : Double → Json
  | .finite x => .num (.real x)
  | _ => .null

def ofOption (encode : α → Json) : Option α → Json
  | none => .null
  | some a => encode a

def kind : Json → String
  | .null => "null"
  | .bool _ => "boolean"
  | .num _ => "number"
  | .str _ => "string"
  | .arr _ => "array"
  | .obj _ => "object"

end Json

end DataGrid
