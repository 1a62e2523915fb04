import DataGrid.Json.Read

namespace DataGrid.Json

mutual

/-- The fields of every object in the value are in the order of their names, each name once. -/
def Ordered : Json → Prop
  | .null | .bool _ | .num _ | .str _ => True
  | .arr items => OrderedItems items
  | .obj fields => fields.Pairwise (fun a b => a.1 < b.1) ∧ OrderedFields fields

def OrderedItems : List Json → Prop
  | [] => True
  | item :: items => Ordered item ∧ OrderedItems items

def OrderedFields : List (String × Json) → Prop
  | [] => True
  | (_, value) :: fields => Ordered value ∧ OrderedFields fields

end

theorem insertField_of_last (name : String) (value : Json) (fields : List (String × Json))
    (last : ∀ field ∈ fields, field.1 < name) :
    insertField name value fields = fields ++ [(name, value)] := by
  induction fields with
  | nil => rfl
  | cons field fields ih =>
    obtain ⟨n, v⟩ := field
    have hn : n < name := last (n, v) (List.mem_cons_self ..)
    have hrest : ∀ field ∈ fields, field.1 < name :=
      fun field h => last field (List.mem_cons_of_mem _ h)
    have hne : name ≠ n := by
      intro h
      rw [h] at hn
      exact String.lt_irrefl n hn
    rw [insertField, if_neg (String.lt_asymm hn), if_neg hne, ih hrest, List.cons_append]

theorem foldl_insertField_of_sorted (fields before : List (String × Json))
    (sorted : (before ++ fields).Pairwise (fun a b => a.1 < b.1)) :
    fields.foldl (fun acc (name, value) => insertField name value acc) before =
      before ++ fields := by
  induction fields generalizing before with
  | nil => exact (List.append_nil before).symm
  | cons field fields ih =>
    obtain ⟨name, value⟩ := field
    have last : ∀ field ∈ before, field.1 < name :=
      fun field h => (List.pairwise_append.mp sorted).2.2 field h (name, value)
        (List.mem_cons_self ..)
    have moved : before ++ (name, value) :: fields = before ++ [(name, value)] ++ fields := by
      rw [List.append_assoc, List.singleton_append]
    rw [List.foldl_cons]
    dsimp only
    rw [insertField_of_last name value before last, moved]
    exact ih _ (moved ▸ sorted)

theorem ofFields_of_sorted (fields : List (String × Json))
    (sorted : fields.Pairwise (fun a b => a.1 < b.1)) : ofFields fields = .obj fields := by
  rw [ofFields, foldl_insertField_of_sorted fields [] sorted, List.nil_append]

mutual

theorem read_ofJson : (j : Json) → j.Ordered → (Node.ofJson j).read .value = .ok j
  | .null, _ | .bool _, _ | .num _, _ | .str _, _ => rfl
  | .arr items, h => by
    have hitems : Node.readItems .value (Node.ofJsonItems items) = .ok items :=
      readItems_ofJsonItems items h
    rw [Node.ofJson, Node.read]
    simp only [Source.enter, bind, Except.bind, hitems]
    rfl
  | .obj fields, ⟨sorted, h⟩ => by
    have hfields : Node.readFields .value (Node.ofJsonFields fields) = .ok fields :=
      readFields_ofJsonFields fields h
    rw [Node.ofJson, Node.read, ← ofFields_of_sorted fields sorted]
    simp only [Source.enter, bind, Except.bind, hfields]
    rfl

theorem readItems_ofJsonItems : (items : List Json) → OrderedItems items →
    Node.readItems .value (Node.ofJsonItems items) = .ok items
  | [], _ => rfl
  | item :: items, ⟨h, hs⟩ => by
    rw [Node.ofJsonItems, Node.readItems, read_ofJson item h, readItems_ofJsonItems items hs]
    rfl

theorem readFields_ofJsonFields : (fields : List (String × Json)) → OrderedFields fields →
    Node.readFields .value (Node.ofJsonFields fields) = .ok fields
  | [], _ => rfl
  | (name, value) :: fields, ⟨h, hs⟩ => by
    rw [Node.ofJsonFields, Node.readFields, read_ofJson value h, readFields_ofJsonFields fields hs]
    rfl

end

end DataGrid.Json
