import DataGrid.Json.Record

namespace DataGrid

/-- The answer to a request: the rows of the page, and how many rows there are in all if that was
asked for. -/
structure Envelope where
  data : List Json
  totalCount : Option Nat

namespace Envelope

def ofRows (rows : List Json) : Envelope :=
  ⟨rows, none⟩

def withTotalCount (e : Envelope) (total : Nat) : Envelope :=
  { e with totalCount := some total }

def toJson (e : Envelope) : Json :=
  .ofFields (("data", .arr e.data) ::
    match e.totalCount with
    | none => []
    | some total => [("totalCount", .ofNat total)])

structure Draft where
  data : Option (List Json) := none
  totalCount : Option (Option Nat) := none

def record : Json.Record Draft where
  type := "struct ResultEnvelope"
  empty := {}
  fields :=
    [{ name := "data", aliases := [], required := true
       isSet := (·.data.isSome)
       set := fun source node draft => do
        return { draft with data := some (← node.readList Json.Node.read source) } },
     { name := "totalCount", aliases := [], required := false
       isSet := (·.totalCount.isSome)
       set := fun _ node draft => do
        return { draft with totalCount := some (← node.readOptional Json.Node.readNat) } }]

def ofDraft (d : Draft) : Envelope :=
  ⟨d.data.getD [], d.totalCount.join⟩

def decode (source : Json.Source) (node : Json.Node) : Except Json.Fault Envelope :=
  (record.read source node).map ofDraft

end Envelope

end DataGrid
