import DataGrid.Json.Record

namespace DataGrid

inductive Direction where
  | asc
  | desc
deriving DecidableEq

def Direction.symbol : Direction → String
  | .asc => "asc"
  | .desc => "desc"

def Direction.ofSymbol? (s : String) : Option Direction :=
  [Direction.asc, .desc].find? (·.symbol == s)

structure SortKey where
  field : String
  direction : Direction
deriving DecidableEq

namespace SortKey

structure Draft where
  field : Option String := none
  descending : Option Bool := none

/-- A key goes by its field, also called selector, and is ascending unless it says otherwise. -/
def record : Json.Record Draft where
  type := "struct SortSpec"
  empty := {}
  fields :=
    [{ name := "field", aliases := ["selector"], required := true
       isSet := (·.field.isSome)
       set := fun _ node draft => do return { draft with field := some (← node.readString) } },
     { name := "desc", aliases := [], required := false
       isSet := (·.descending.isSome)
       set := fun _ node draft => do return { draft with descending := some (← node.readBool) } }]

def ofDraft (d : Draft) : SortKey :=
  ⟨d.field.getD "", if d.descending.getD false then .desc else .asc⟩

def decode (source : Json.Source) (node : Json.Node) : Except Json.Fault SortKey :=
  (record.read source node).map ofDraft

def decodeList (source : Json.Source) (node : Json.Node) : Except Json.Fault (List SortKey) :=
  node.readList decode source

def toJson (k : SortKey) : Json :=
  .ofFields [("field", .str k.field), ("desc", .bool (k.direction == .desc))]

end SortKey

end DataGrid
