import DataGrid.Filter.Compile
import DataGrid.SortKey

namespace DataGrid

namespace Request

/-- A request as far as it is read: a field that did not come, one that is null, or its value. -/
structure Draft where
  filter : Option (Option Json) := none
  sort : Option (Option (List SortKey)) := none
  skip : Option (Option Json) := none
  take : Option (Option Json) := none
  requireTotalCount : Option (Option Bool) := none

def freeField (name : String) (get : Draft → Option (Option Json))
    (set : Draft → Option Json → Draft) : Json.Field Draft where
  name
  aliases := []
  required := false
  isSet draft := (get draft).isSome
  set source node draft := return set draft (← node.readOptional (·.read source))

def record : Json.Record Draft where
  type := "struct RawQueryRequest"
  empty := {}
  fields :=
    [freeField "filter" (·.filter) fun draft value => { draft with filter := some value },
     { name := "sort", aliases := [], required := false
       isSet := (·.sort.isSome)
       set := fun source node draft => do
        return { draft with sort := some (← node.readOptional (SortKey.decodeList source)) } },
     freeField "skip" (·.skip) fun draft value => { draft with skip := some value },
     freeField "take" (·.take) fun draft value => { draft with take := some value },
     { name := "requireTotalCount", aliases := [], required := false
       isSet := (·.requireTotalCount.isSome)
       set := fun _ node draft => do
        return { draft with requireTotalCount := some (← node.readOptional Json.Node.readBool) } }]

structure Raw where
  filter : Option Json
  sort : Option (List SortKey)
  skip : Option Json
  take : Option Json
  requireTotalCount : Option Bool

def ofDraft (d : Draft) : Raw :=
  ⟨d.filter.join, d.sort.join, d.skip.join, d.take.join, d.requireTotalCount.join⟩

def decode (source : Json.Source) (node : Json.Node) : Except Json.Fault Raw :=
  (record.read source node).map ofDraft

end Request

structure Request where
  filter : Option (Tree Condition)
  sort : Option (List SortKey)
  skip : Option Json
  take : Option Json
  requireTotalCount : Bool

namespace Request

def parseFilter (filter : Json) : Except QueryError (Tree Condition) :=
  (Filter.parse filter).mapError Filter.Malformed.toError

def ofRaw (raw : Raw) : Except QueryError Request := do
  let filter ←
    match raw.filter with
    | none => pure none
    | some filter => some <$> parseFilter filter
  return ⟨filter, raw.sort, raw.skip, raw.take, raw.requireTotalCount.getD false⟩

def ofDecoded (raw : Except Json.Fault Raw) : Except QueryError Request := do
  ofRaw (← raw.mapError .invalidRequest)

def ofText (text : String) : Except QueryError Request :=
  ofDecoded (Json.decodeText decode text)

def ofJson (value : Json) : Except QueryError Request :=
  ofDecoded (Json.decodeValue decode value)

end Request

end DataGrid
