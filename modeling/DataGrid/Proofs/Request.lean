import DataGrid.Proofs.Json.Read
import DataGrid.Request

namespace DataGrid

theorem Json.readOptional_ofJson {j : Json} (ordered : j.Ordered) (present : j ≠ .null) :
    (Node.ofJson j).readOptional (·.read .value) = .ok (some j) := by
  have hread : (Node.ofJson j).read .value = .ok j := read_ofJson j ordered
  cases j with
  | null => exact absurd rfl present
  | bool _ | num _ | str _ => rfl
  | arr items =>
    rw [Node.ofJson] at hread ⊢
    rw [Node.readOptional, hread]
    · rfl
    · exact nofun
  | obj fields =>
    rw [Node.ofJson] at hread ⊢
    rw [Node.readOptional, hread]
    · rfl
    · exact nofun

namespace Request

theorem readField_filter {filter : Json} (ordered : filter.Ordered) (present : filter ≠ .null) :
    record.readField .value record.empty (.name (.ok "filter"), .ofJson filter) =
      .ok { filter := some (some filter) } := by
  change (do return { filter := some (← (Json.Node.ofJson filter).readOptional (·.read .value)) } :
    Except Json.Fault Draft) = _
  rw [Json.readOptional_ofJson ordered present]
  rfl

def counted (filter : Json) : Json :=
  .ofFields [("filter", filter), ("requireTotalCount", .bool true)]

theorem counted_eq (filter : Json) :
    counted filter = .obj [("filter", filter), ("requireTotalCount", .bool true)] :=
  rfl

theorem decode_counted {filter : Json} (ordered : filter.Ordered) (present : filter ≠ .null) :
    Json.decodeValue decode (counted filter) =
      .ok ⟨some filter, none, none, none, some true⟩ := by
  rw [counted_eq, Json.decodeValue, decode, Json.Node.ofJson, Json.Record.read]
  simp only [Json.Source.enter, Json.Node.ofJsonFields, bind, Except.bind, List.foldlM]
  rw [readField_filter ordered present]
  rfl

theorem ofJson_counted {filter : Json} {tree : Tree Condition} (ordered : filter.Ordered)
    (parsed : Filter.parse filter = .ok tree) :
    ofJson (counted filter) = .ok ⟨some tree, none, none, none, true⟩ := by
  have present : filter ≠ .null := by
    rintro rfl
    cases parsed
  have hfilter : parseFilter filter = .ok tree := by
    rw [parseFilter, parsed]
    rfl
  calc ofJson (counted filter)
      = ofRaw ⟨some filter, none, none, none, some true⟩ := by
        rw [ofJson, decode_counted ordered present]
        rfl
    _ = .ok ⟨some tree, none, none, none, true⟩ := by
        rw [ofRaw]
        dsimp only
        rw [hfilter]
        rfl

end Request

end DataGrid
