import DataGrid.Proofs.Json.Parts

namespace DataGrid.Json.Record
variable {δ : Type} {r : Record δ} {room : Nat}

inductive SamePart (room : Nat) : Part δ → Part δ → Prop where
  | intro (f : Field δ) {node : Node} {j : Json} (h : node.read (.text room) = .ok j) :
      SamePart room (f, node) (f, .ofJson j)

theorem sameParts_items {fields : List (Field δ)} {items : List Node} {values : List Json}
    (h : Node.readItems (.text room) items = .ok values) :
    List.Forall₂ (SamePart room) (fields.zip items) (fields.zip (Node.ofJsonItems values)) := by
  induction fields generalizing items values with
  | nil => exact .nil
  | cons f fields ih =>
    cases items with
    | nil =>
      cases h
      exact .nil
    | cons item items =>
      obtain ⟨value, rest, hitem, hitems, rfl⟩ := Node.readItems_cons_eq_ok_iff.mp h
      exact .cons (.intro f hitem) (ih hitems)

theorem sameParts_fields {entries : List (Key × Node)} {values : List (String × Json)}
    (h : Node.readFields (.text room) entries = .ok values) :
    List.Forall₂ (SamePart room) (entries.filterMap r.part?) (r.given values) := by
  induction entries generalizing values with
  | nil =>
    cases h
    exact .nil
  | cons entry entries ih =>
    obtain ⟨key, node⟩ := entry
    obtain ⟨name, value, rest, rfl, hnode, hrest, rfl⟩ := Node.readFields_cons_eq_ok_iff.mp h
    rw [List.filterMap_cons, part?_name, given, List.filterMap_cons]
    dsimp only
    cases r.field? name with
    | none => exact ih hrest
    | some f => exact .cons (.intro f hnode) (ih hrest)

theorem map_name_eq {ps qs : List (Part δ)} (same : List.Forall₂ (SamePart room) ps qs) :
    ps.map (·.1.name) = qs.map (·.1.name) := by
  induction same with
  | nil => rfl
  | cons first _ ih =>
    obtain ⟨f, _⟩ := first
    rw [List.map_cons, List.map_cons, ih]

theorem unrepeated_arr (distinct : (r.fields.map (·.name)).Nodup) (items : List Node)
    (finish : ListEnd) : r.Unrepeated (.arr items finish) := by
  have given : ((r.fields.zip items).map Prod.fst).Sublist r.fields := by
    rw [List.zip_eq_zip_take_min, List.map_fst_zip (by simp)]
    exact List.take_sublist ..
  have names := (given.map (·.name)).nodup distinct
  rwa [List.map_map] at names

theorem length_ofJsonItems {source : Source} {items : List Node} {values : List Json}
    (h : Node.readItems source items = .ok values) :
    (Node.ofJsonItems values).length = items.length := by
  induction items generalizing values with
  | nil =>
    cases h
    rfl
  | cons item items ih =>
    obtain ⟨value, rest, _, hitems, rfl⟩ := Node.readItems_cons_eq_ok_iff.mp h
    rw [Node.ofJsonItems, List.length_cons, List.length_cons, ih hitems]

variable {fine : Field δ → Node → Prop}

/-- Steps that take the same from a part of a text and of its value take the same from all parts. -/
theorem foldlM_eq_ok_iff {step : Source → δ → Part δ → Except Fault δ} {ps qs : List (Part δ)}
    (same : List.Forall₂ (SamePart room) ps qs)
    (faithful : ∀ p ∈ ps, ∀ {q draft draft'}, SamePart room p q →
      (step (.text room) draft p = .ok draft' ↔ fine p.1 p.2 ∧ step .value draft q = .ok draft'))
    {draft draft' : δ} :
    ps.foldlM (step (.text room)) draft = .ok draft' ↔
      (∀ p ∈ ps, fine p.1 p.2) ∧ qs.foldlM (step .value) draft = .ok draft' := by
  induction same generalizing draft with
  | nil => exact (and_iff_right nofun).symm
  | cons first _ ih =>
    rw [List.forall_mem_cons] at faithful ⊢
    rw [List.foldlM_cons, List.foldlM_cons]
    simp only [bind_eq_ok_iff, faithful.1 first, ih faithful.2]
    grind

section
variable (faithful : ∀ f ∈ r.fields, ∀ draft,
  Faithful (fun source node => f.set source node draft) (fine f))
include faithful

theorem setNext_text {p q : Part δ} {draft draft' : δ} (known : p.1 ∈ r.fields)
    (same : SamePart room p q) :
    setNext (.text room) draft p = .ok draft' ↔
      fine p.1 p.2 ∧ setNext .value draft q = .ok draft' := by
  cases same with
  | intro f h => exact (faithful f known draft).eq_ok_iff h

theorem setOnce_text {p q : Part δ} {draft draft' : δ} (known : p.1 ∈ r.fields)
    (same : SamePart room p q) :
    setOnce (.text room) draft p = .ok draft' ↔
      fine p.1 p.2 ∧ setOnce .value draft q = .ok draft' := by
  cases same with
  | intro f h =>
    rw [setOnce_eq_ok_iff, setOnce_eq_ok_iff, (faithful f known draft).eq_ok_iff h]
    exact and_left_comm

theorem read_list_text (lawful : r.Lawful) {items : List Node} {values : List Json}
    {inner : Source} (entered : (Source.text room).enter = .ok inner)
    (whole : Node.readItems inner items = .ok values) {draft : δ} :
    r.read (.text room) (.arr items .closed) = .ok draft ↔
      (r.Unrepeated (.arr items .closed) ∧
        ∀ part ∈ r.parts (.arr items .closed), fine part.1 part.2) ∧
      r.read .value (.ofJson (.arr values)) = .ok draft := by
  obtain ⟨room, rfl⟩ := Node.exists_text_of_enter entered
  have known : ∀ p ∈ r.parts (.arr items .closed), p.1 ∈ r.fields := fun _ => mem_of_parts
  rw [Node.ofJson, read_arr_eq_ok_iff entered, read_arr_eq_ok_iff rfl, length_ofJsonItems whole,
    foldlM_eq_ok_iff (sameParts_items whole)
      fun p mem _ _ _ same => setNext_text faithful (known p mem) same]
  constructor
  · rintro ⟨⟨fine, read⟩, enough⟩
    exact ⟨⟨unrepeated_arr lawful.distinct items .closed, fine⟩, read, enough⟩
  · rintro ⟨⟨_, fine⟩, read, enough⟩
    exact ⟨⟨fine, read⟩, enough⟩

theorem read_object_text (lawful : r.Lawful) {entries : List (Key × Node)}
    {values : List (String × Json)} {inner : Source}
    (entered : (Source.text room).enter = .ok inner)
    (whole : Node.readFields inner entries = .ok values) {draft : δ} :
    r.read (.text room) (.obj entries .closed) = .ok draft ↔
      (r.Unrepeated (.obj entries .closed) ∧
        ∀ part ∈ r.parts (.obj entries .closed), fine part.1 part.2) ∧
      r.read .value (.ofJson (ofFields values)) = .ok draft := by
  obtain ⟨room, rfl⟩ := Node.exists_text_of_enter entered
  obtain ⟨sorted, held⟩ : ∃ sorted, ofFields values = .obj sorted := ⟨_, rfl⟩
  have ordered : (Json.obj sorted).Ordered :=
    held ▸ ofFields_ordered (ordered_of_readFields entries whole)
  have known : ∀ p ∈ r.parts (.obj entries .closed), p.1 ∈ r.fields := fun _ => mem_of_parts
  rw [held, Node.ofJson, read_obj_eq_ok_iff entered whole,
    read_obj_eq_ok_iff rfl (readFields_ofJsonFields sorted ordered.2), parts_ofJson_obj,
    foldlM_eq_ok_iff (sameParts_fields whole)
      fun p mem _ _ _ same => setOnce_text faithful (known p mem) same,
    foldlM_given_eq_ok_iff lawful held, ← map_name_eq (sameParts_fields whole)]
  constructor
  · rintro ⟨⟨fine, once, read⟩, enough⟩
    exact ⟨⟨once, fine⟩, read, enough⟩
  · rintro ⟨⟨once, fine⟩, read, enough⟩
    exact ⟨⟨fine, once, read⟩, enough⟩

/-- A record is read from a text as from its value, if its fields are and none is given twice. -/
theorem faithful_read (lawful : r.Lawful) :
    Faithful r.read fun node =>
      r.Unrepeated node ∧ ∀ part ∈ r.parts node, fine part.1 part.2 where
  eq_ok_iff h := by
    cases Node.reading_of_read h with
    | literal value =>
      rw [Node.ofJson_toJson]
      exact iff_of_false Node.wrong_ne_ok fun h => Node.wrong_ne_ok h.2
    | text value => exact iff_of_false Node.wrong_ne_ok fun h => Node.wrong_ne_ok h.2
    | arr entered whole => exact read_list_text faithful lawful entered whole
    | obj entered whole => exact read_object_text faithful lawful entered whole

end

end DataGrid.Json.Record
