import DataGrid.Json.Decode
import DataGrid.Proofs.Json.Reading

namespace DataGrid.Json

/-- What the reader takes from the tree of a text it takes from the value of the text too, and what
it takes from the value it takes from the tree if that is fine. -/
structure Faithful (read : Source → Node → Except Fault α) (fine : Node → Prop) : Prop where
  eq_ok_iff : ∀ {room : Nat} {node : Node} {j : Json} {a : α}, node.read (.text room) = .ok j →
    (read (.text room) node = .ok a ↔ fine node ∧ read .value (.ofJson j) = .ok a)

namespace Node

def items : Node → List Node
  | .arr items _ => items
  | _ => []

theorem ofJson_toJson (value : Literal) : Node.ofJson value.toJson = .literal (.ok value) := by
  cases value <;> rfl

theorem ofJson_ofFields (fields : List (String × Json)) :
    ∃ entries, Node.ofJson (ofFields fields) = .obj entries .closed :=
  ⟨_, by rw [ofFields, Node.ofJson]⟩

theorem wrong_ne_ok {node : Node} {expected : String} {a : α} : node.wrong expected ≠ .ok a := by
  rw [wrong]
  cases node.found <;> exact nofun

theorem exists_text_of_enter {room : Nat} {inner : Source}
    (h : (Source.text room).enter = .ok inner) : ∃ n, inner = .text n := by
  cases room with
  | zero => cases h
  | succ n =>
    cases h
    exact ⟨n, rfl⟩

theorem readOptional_of_ne {read : Node → Except Fault α} {node : Node}
    (ne : node ≠ .literal (.ok .null)) : node.readOptional read = some <$> read node := by
  rw [readOptional]
  exact ne

/-- Null stands in a text where it stands in the value. -/
theorem ofJson_ne_null {source : Source} {node : Node} {j : Json} (h : node.read source = .ok j)
    (ne : node ≠ .literal (.ok .null)) : Node.ofJson j ≠ .literal (.ok .null) := by
  cases reading_of_read h with
  | literal value => rwa [ofJson_toJson]
  | text value => exact nofun
  | arr entered parts => exact nofun
  | obj entered parts => exact nofun

end Node

namespace Faithful

theorem node : Faithful (fun source node => node.read source) fun _ => True where
  eq_ok_iff h := by rw [h, read_ofJson_of_read h, true_and]

/-- A scalar of a text is the scalar of its value, and no other tree is read. -/
theorem scalar {read : Node → Except Fault α}
    (list : ∀ {items finish a}, read (.arr items finish) ≠ .ok a)
    (object : ∀ {fields finish a}, read (.obj fields finish) ≠ .ok a) :
    Faithful (fun _ => read) fun _ => True where
  eq_ok_iff h := by
    rw [true_and]
    cases Node.reading_of_read h with
    | literal value => rw [Node.ofJson_toJson]
    | text value => rw [Node.ofJson]
    | arr entered parts =>
      rw [Node.ofJson]
      exact iff_of_false list list
    | @obj _ _ values entered parts =>
      obtain ⟨entries, tree⟩ := Node.ofJson_ofFields values
      rw [tree]
      exact iff_of_false object object

theorem readString : Faithful (fun _ => Node.readString) fun _ => True :=
  scalar Node.wrong_ne_ok Node.wrong_ne_ok

theorem readBool : Faithful (fun _ => Node.readBool) fun _ => True :=
  scalar Node.wrong_ne_ok Node.wrong_ne_ok

variable {read : Source → Node → Except Fault α} {fine fine' : Node → Prop}

theorem congr (faithful : Faithful read fine) (same : ∀ node, fine' node ↔ fine node) :
    Faithful read fine' where
  eq_ok_iff h := by rw [same, faithful.eq_ok_iff h]

theorem map (faithful : Faithful read fine) (f : α → β) :
    Faithful (fun source node => (read source node).map f) fine where
  eq_ok_iff h := by
    simp only [map_eq_ok_iff, faithful.eq_ok_iff h]
    grind

theorem put (faithful : Faithful read fine) (f : α → β) :
    Faithful (fun source node => do return f (← read source node)) fine where
  eq_ok_iff h := by
    simp only [return_eq_ok_iff, faithful.eq_ok_iff h]
    grind

theorem optional (faithful : Faithful read fine) (null : fine (.literal (.ok .null))) :
    Faithful (fun source node => node.readOptional (read source)) fine where
  eq_ok_iff {room node j a} h := by
    by_cases isNull : node = .literal (.ok .null)
    · subst isNull
      cases h
      exact (and_iff_right null).symm
    · rw [Node.readOptional_of_ne isNull, Node.readOptional_of_ne (Node.ofJson_ne_null h isNull)]
      exact (faithful.map some).eq_ok_iff h

theorem mapM (faithful : Faithful read fine) {room : Nat} {items : List Node} {values : List Json}
    (h : Node.readItems (.text room) items = .ok values) {results : List α} :
    items.mapM (read (.text room)) = .ok results ↔
      (∀ item ∈ items, fine item) ∧ (Node.ofJsonItems values).mapM (read .value) = .ok results := by
  induction items generalizing values results with
  | nil =>
    cases h
    exact (and_iff_right nofun).symm
  | cons item items ih =>
    obtain ⟨value, rest, hitem, hitems, rfl⟩ := Node.readItems_cons_eq_ok_iff.mp h
    rw [Node.ofJsonItems, List.mapM_cons, List.mapM_cons, List.forall_mem_cons]
    simp only [bind_eq_ok_iff, faithful.eq_ok_iff hitem, ih hitems]
    grind

theorem list (faithful : Faithful read fine) :
    Faithful (Node.readList read) fun node => ∀ item ∈ node.items, fine item where
  eq_ok_iff h := by
    cases Node.reading_of_read h with
    | literal value =>
      rw [Node.ofJson_toJson]
      exact (and_iff_right nofun).symm
    | text value => exact (and_iff_right nofun).symm
    | arr entered parts =>
      obtain ⟨room, rfl⟩ := Node.exists_text_of_enter entered
      rw [Node.ofJson, Node.readList, Node.readList, entered]
      have enter_value : Source.value.enter = .ok .value := rfl
      simp only [bind_eq_ok_iff, enter_value, Except.ok.injEq, exists_eq_left', Node.items,
        faithful.mapM parts]
      grind
    | @obj _ _ values entered parts =>
      obtain ⟨entries, tree⟩ := Node.ofJson_ofFields values
      rw [tree]
      exact iff_of_false Node.wrong_ne_ok fun h => Node.wrong_ne_ok h.2

end Faithful

theorem Document.decode_eq_ok_iff {read : Source → Node → Except Fault α} {d : Document} {a : α} :
    d.decode read = .ok a ↔ read .wholeText d.root = .ok a ∧ d.trailing = false := by
  rw [decode]
  cases d.trailing <;> simp [bind_eq_ok_iff, throw, throwThe, MonadExceptOf.throw, pure,
    Except.pure]

theorem Faithful.decodeText_eq_ok_iff {read : Source → Node → Except Fault α} {fine : Node → Prop}
    (faithful : Faithful read fine) {text : String} {value : Json} (parsed : parse text = .ok value)
    {a : α} :
    decodeText read text = .ok a ↔
      fine (Document.ofText text).root ∧ decodeValue read value = .ok a := by
  obtain ⟨root, whole⟩ := Document.decode_eq_ok_iff.mp parsed
  rw [decodeText, Document.decode_eq_ok_iff, decodeValue, Source.wholeText,
    faithful.eq_ok_iff root]
  exact and_iff_left whole

end DataGrid.Json
