import DataGrid.Proofs.Json.Read
import DataGrid.Proofs.Result
import Mathlib.Data.String.Basic

namespace DataGrid.Json

theorem Lexeme.read_eq_ok_iff {lexeme : Lexeme α} {a : α} :
    lexeme.read = .ok a ↔ lexeme = .ok a := by
  cases lexeme <;> simp [Lexeme.read]

theorem Key.read_eq_ok_iff {key : Key} {name : String} :
    key.read = .ok name ↔ key = .name (.ok name) := by
  cases key with
  | name text => rw [Key.read, Lexeme.read_eq_ok_iff, Key.name.injEq]
  | other => simp [Key.read]

theorem ListEnd.read_eq_ok_iff {finish : ListEnd} {u : Unit} :
    finish.read = .ok u ↔ finish = .closed := by
  cases finish <;> simp [ListEnd.read]

theorem ObjectEnd.read_eq_ok_iff {finish : ObjectEnd} {u : Unit} :
    finish.read = .ok u ↔ finish = .closed := by
  cases finish <;> simp [ObjectEnd.read]

namespace Node
variable {source : Source}

/-- How a tree that is read to its end gives its value: a scalar at once, a list or an object from
its parts. -/
inductive Reading (source : Source) : Node → Json → Prop where
  | literal (value : Literal) : Reading source (.literal (.ok value)) value.toJson
  | text (value : String) : Reading source (.text (.ok value)) (.str value)
  | arr {inner : Source} {items : List Node} {values : List Json}
      (entered : source.enter = .ok inner) (parts : readItems inner items = .ok values) :
      Reading source (.arr items .closed) (.arr values)
  | obj {inner : Source} {fields : List (Key × Node)} {values : List (String × Json)}
      (entered : source.enter = .ok inner) (parts : readFields inner fields = .ok values) :
      Reading source (.obj fields .closed) (ofFields values)

theorem reading_of_read {node : Node} {j : Json} (h : node.read source = .ok j) :
    Reading source node j := by
  cases node with
  | literal lexeme =>
    obtain ⟨value, read, rfl⟩ := map_eq_ok_iff.mp h
    obtain rfl := Lexeme.read_eq_ok_iff.mp read
    exact .literal value
  | text lexeme =>
    obtain ⟨value, read, rfl⟩ := map_eq_ok_iff.mp h
    obtain rfl := Lexeme.read_eq_ok_iff.mp read
    exact .text value
  | arr items finish =>
    rw [read] at h
    obtain ⟨inner, entered, h⟩ := bind_eq_ok_iff.mp h
    obtain ⟨values, parts, h⟩ := bind_eq_ok_iff.mp h
    obtain ⟨_, finished, h⟩ := bind_eq_ok_iff.mp h
    obtain rfl := ListEnd.read_eq_ok_iff.mp finished
    cases h
    exact .arr entered parts
  | obj fields finish =>
    rw [read] at h
    obtain ⟨inner, entered, h⟩ := bind_eq_ok_iff.mp h
    obtain ⟨values, parts, h⟩ := bind_eq_ok_iff.mp h
    obtain ⟨_, finished, h⟩ := bind_eq_ok_iff.mp h
    obtain rfl := ObjectEnd.read_eq_ok_iff.mp finished
    cases h
    exact .obj entered parts
  | fault reason => cases h

theorem readItems_cons_eq_ok_iff {item : Node} {items : List Node} {values : List Json} :
    readItems source (item :: items) = .ok values ↔
      ∃ value rest, item.read source = .ok value ∧ readItems source items = .ok rest ∧
        value :: rest = values := by
  rw [readItems]
  simp only [bind_eq_ok_iff, pure, Except.pure, Except.ok.injEq]
  grind

theorem readFields_cons_eq_ok_iff {key : Key} {node : Node} {fields : List (Key × Node)}
    {values : List (String × Json)} :
    readFields source ((key, node) :: fields) = .ok values ↔
      ∃ name value rest, key = .name (.ok name) ∧ node.read source = .ok value ∧
        readFields source fields = .ok rest ∧ (name, value) :: rest = values := by
  rw [readFields]
  simp only [bind_eq_ok_iff, Key.read_eq_ok_iff, pure, Except.pure, Except.ok.injEq]
  grind

end Node

theorem mem_insertField {name : String} {value : Json} {field : String × Json}
    {fields : List (String × Json)} (h : field ∈ insertField name value fields) :
    field = (name, value) ∨ field ∈ fields := by
  fun_induction insertField name value fields <;> grind

theorem insertField_sorted (name : String) (value : Json) {fields : List (String × Json)}
    (sorted : fields.Pairwise (fun a b => a.1 < b.1)) :
    (insertField name value fields).Pairwise (fun a b => a.1 < b.1) := by
  fun_induction insertField name value fields with
  | case1 => exact List.pairwise_singleton _ _
  | case2 n v fields before =>
    refine List.pairwise_cons.mpr ⟨fun field h => ?_, sorted⟩
    rcases List.mem_cons.mp h with rfl | h
    · exact before
    · exact String.lt_trans before ((List.pairwise_cons.mp sorted).1 field h)
  | case3 v fields _ => exact List.pairwise_cons.mpr (List.pairwise_cons.mp sorted)
  | case4 n v fields notBefore ne ih =>
    obtain ⟨first, sorted⟩ := List.pairwise_cons.mp sorted
    have after : n < name := lt_of_le_of_ne (not_lt.mp notBefore) (Ne.symm ne)
    refine List.pairwise_cons.mpr ⟨fun field h => ?_, ih sorted⟩
    rcases mem_insertField h with rfl | h
    · exact after
    · exact first field h

theorem orderedFields_iff {fields : List (String × Json)} :
    OrderedFields fields ↔ ∀ field ∈ fields, field.2.Ordered := by
  induction fields with
  | nil => simp [OrderedFields]
  | cons field fields ih => rw [OrderedFields, ih, List.forall_mem_cons]

/-- The fields put in so far are in order, and each value came with one of them. -/
theorem foldl_insertField_ordered (fields before : List (String × Json))
    (sorted : before.Pairwise (fun a b => a.1 < b.1)) (values : OrderedFields before)
    (more : OrderedFields fields) :
    (Json.obj (fields.foldl (fun acc (name, value) => insertField name value acc)
      before)).Ordered := by
  induction fields generalizing before with
  | nil => exact ⟨sorted, values⟩
  | cons field fields ih =>
    refine ih _ (insertField_sorted field.1 field.2 sorted) ?_ more.2
    refine orderedFields_iff.mpr fun added h => ?_
    rcases mem_insertField h with rfl | h
    · exact more.1
    · exact orderedFields_iff.mp values added h

theorem ofFields_ordered {fields : List (String × Json)} (values : OrderedFields fields) :
    (ofFields fields).Ordered :=
  foldl_insertField_ordered fields [] List.Pairwise.nil trivial values

mutual

theorem ordered_of_read {source : Source} : (node : Node) → ∀ {j : Json},
    node.read source = .ok j → j.Ordered
  | .literal _, _, h => by
    cases Node.reading_of_read h with
    | literal value => cases value <;> trivial
  | .text _, _, h => by
    cases Node.reading_of_read h
    trivial
  | .arr items _, _, h => by
    cases Node.reading_of_read h with
    | arr entered parts => exact ordered_of_readItems items parts
  | .obj fields _, _, h => by
    cases Node.reading_of_read h with
    | obj entered parts => exact ofFields_ordered (ordered_of_readFields fields parts)
  | .fault _, _, h => by cases h

theorem ordered_of_readItems {source : Source} : (items : List Node) → ∀ {values : List Json},
    Node.readItems source items = .ok values → OrderedItems values
  | [], _, h => by
    cases h
    trivial
  | item :: items, _, h => by
    obtain ⟨value, rest, read, readRest, rfl⟩ := Node.readItems_cons_eq_ok_iff.mp h
    exact ⟨ordered_of_read item read, ordered_of_readItems items readRest⟩

theorem ordered_of_readFields {source : Source} : (fields : List (Key × Node)) →
    ∀ {values : List (String × Json)}, Node.readFields source fields = .ok values →
      OrderedFields values
  | [], _, h => by
    cases h
    trivial
  | (_, node) :: fields, _, h => by
    obtain ⟨name, value, rest, _, read, readRest, rfl⟩ := Node.readFields_cons_eq_ok_iff.mp h
    exact ⟨ordered_of_read node read, ordered_of_readFields fields readRest⟩

end

theorem read_ofJson_of_read {source : Source} {node : Node} {j : Json}
    (h : node.read source = .ok j) : (Node.ofJson j).read .value = .ok j :=
  read_ofJson j (ordered_of_read node h)

mutual

theorem skip_of_read {source : Source} : (node : Node) → ∀ {j : Json},
    node.read source = .ok j → node.skip = .ok ()
  | .literal _, _, h => by
    cases Node.reading_of_read h
    rfl
  | .text _, _, h => by
    cases Node.reading_of_read h
    rfl
  | .arr items _, _, h => by
    cases Node.reading_of_read h with
    | arr entered parts =>
      rw [Node.skip, skipItems_of_readItems items parts]
      rfl
  | .obj fields _, _, h => by
    cases Node.reading_of_read h with
    | obj entered parts =>
      rw [Node.skip, skipFields_of_readFields fields parts]
      rfl
  | .fault _, _, h => by cases h

theorem skipItems_of_readItems {source : Source} : (items : List Node) → ∀ {values : List Json},
    Node.readItems source items = .ok values → Node.skipItems items = .ok ()
  | [], _, _ => rfl
  | item :: items, _, h => by
    obtain ⟨value, rest, read, readRest, _⟩ := Node.readItems_cons_eq_ok_iff.mp h
    rw [Node.skipItems, skip_of_read item read]
    exact skipItems_of_readItems items readRest

theorem skipFields_of_readFields {source : Source} : (fields : List (Key × Node)) →
    ∀ {values : List (String × Json)}, Node.readFields source fields = .ok values →
      Node.skipFields fields = .ok ()
  | [], _, _ => rfl
  | (_, node) :: fields, _, h => by
    obtain ⟨name, value, rest, rfl, read, readRest, _⟩ := Node.readFields_cons_eq_ok_iff.mp h
    rw [Node.skipFields, skip_of_read node read]
    exact skipFields_of_readFields fields readRest

end

end DataGrid.Json
