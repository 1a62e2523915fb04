import DataGrid.Filter.Tree
import DataGrid.Json.Basic

namespace DataGrid

structure IntEquality where
  field : String
  value : Int64

def IntEquality.test (e : IntEquality) (record : Json) : Bool :=
  match record.get? e.field with
  | some (.num n) => n.toInt64? == some e.value
  | _ => false

/-- Filters whose meaning is plain. -/
abbrev Reference := Tree IntEquality

namespace Reference

/-- An expression without an equality in it holds of every record. -/
def holds (record : Json) (e : Reference) : Bool :=
  (e.outcome (IntEquality.test · record)).getD true

mutual

def toObject : Tree IntEquality → Json
  | .leaf e =>
    .ofFields [("field", .str e.field), ("operator", .str "equal"), ("value", .ofInt64 e.value)]
  | .group joiner children =>
    .ofFields [("operator", .str joiner.symbol), ("filters", .arr (toObjects children))]

def toObjects : List (Tree IntEquality) → List Json
  | [] => []
  | t :: ts => toObject t :: toObjects ts

end

mutual

def toArray : Tree IntEquality → Json
  | .leaf e => .arr [.str e.field, .str "equal", .ofInt64 e.value]
  | .group joiner children => .arr (toArrays joiner children)

def toArrays (joiner : Joiner) : List (Tree IntEquality) → List Json
  | [] => []
  | [t] => [toArray t]
  | t :: ts => toArray t :: .str joiner.symbol :: toArrays joiner ts

end

end Reference

end DataGrid
