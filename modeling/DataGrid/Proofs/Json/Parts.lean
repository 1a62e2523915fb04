import DataGrid.Json.Record
import DataGrid.Proofs.Json.Faithful
import Mathlib.Data.List.Nodup

namespace DataGrid.Json.Record

/-- A field of a record and what it is read from. -/
abbrev Part (δ : Type) := Field δ × Node

variable {δ : Type} {r : Record δ}

def part? (r : Record δ) (entry : Key × Node) : Option (Part δ) :=
  entry.1.read.toOption.bind fun name => (r.field? name).map fun f => (f, entry.2)

/-- What the fields of the record are read from, in the order of the tree. -/
def parts (r : Record δ) : Node → List (Part δ)
  | .arr items _ => r.fields.zip items
  | .obj fields _ => fields.filterMap r.part?
  | _ => []

/-- No field is given twice, under one of its names or under two. -/
def Unrepeated (r : Record δ) (node : Node) : Prop :=
  ((r.parts node).map (·.1.name)).Nodup

instance {node : Node} : Decidable (r.Unrepeated node) :=
  inferInstanceAs (Decidable (List.Nodup _))

/-- The fields of a record are apart from each other: setting one leaves the others as they are,
and of two it does not matter which is set first. -/
structure Lawful (r : Record δ) : Prop where
  distinct : (r.fields.map (·.name)).Nodup
  isSet_set : ∀ {f g source node draft draft'}, f ∈ r.fields → g ∈ r.fields →
    f.set source node draft = .ok draft' →
    (g.isSet draft' = true ↔ g.isSet draft = true ∨ g.name = f.name)
  set_comm : ∀ {f g source node node' draft middle draft'}, f ∈ r.fields → g ∈ r.fields →
    f.name ≠ g.name → f.set source node draft = .ok middle →
    g.set source node' middle = .ok draft' →
    ∃ middle', g.set source node' draft = .ok middle' ∧ f.set source node middle' = .ok draft'

def setOnce (source : Source) (draft : δ) (part : Part δ) : Except Fault δ := do
  if part.1.isSet draft then throw (.mismatch (.duplicateField part.1.name))
  part.1.set source part.2 draft

/-- A field of a list is set without a look at what is there. -/
def setNext (source : Source) (draft : δ) (part : Part δ) : Except Fault δ :=
  part.1.set source part.2 draft

theorem setOnce_eq_ok_iff {source : Source} {draft draft' : δ} {part : Part δ} :
    setOnce source draft part = .ok draft' ↔
      part.1.isSet draft = false ∧ part.1.set source part.2 draft = .ok draft' := by
  unfold setOnce
  cases part.1.isSet draft <;> simp [bind, Except.bind, throw, throwThe, MonadExceptOf.throw]

theorem part?_name (name : String) (node : Node) :
    r.part? (.name (.ok name), node) = (r.field? name).map fun f => (f, node) :=
  rfl

theorem mem_of_part? {entry : Key × Node} {part : Part δ} (h : r.part? entry = some part) :
    part.1 ∈ r.fields := by
  obtain ⟨name, _, h⟩ := Option.bind_eq_some_iff.mp h
  obtain ⟨f, known, rfl⟩ := Option.map_eq_some_iff.mp h
  exact List.mem_of_find?_eq_some known

theorem mem_of_parts {node : Node} {part : Part δ} (h : part ∈ r.parts node) :
    part.1 ∈ r.fields := by
  cases node with
  | arr items finish => exact (List.of_mem_zip h).1
  | obj fields finish =>
    obtain ⟨entry, _, h⟩ := List.mem_filterMap.mp h
    exact mem_of_part? h
  | _ => cases h

theorem readField_of_unknown {source : Source} {draft : δ} {name : String} {node : Node}
    (unknown : r.field? name = none) (skipped : node.skip = .ok ()) :
    r.readField source draft (.name (.ok name), node) = .ok draft := by
  simp only [readField, Key.read, Lexeme.read, bind, Except.bind, unknown]
  rw [skipped]
  rfl

theorem readField_of_known {source : Source} {draft : δ} {name : String} {node : Node}
    {f : Field δ} (known : r.field? name = some f) :
    r.readField source draft (.name (.ok name), node) = setOnce source draft (f, node) := by
  simp only [readField, Key.read, Lexeme.read, bind, Except.bind, known]
  rfl

/-- Only the parts of an object count: what is not one is passed over, since it can be read. -/
theorem foldlM_readField {source whole : Source} {entries : List (Key × Node)}
    {values : List (String × Json)} (h : Node.readFields whole entries = .ok values) {draft : δ} :
    entries.foldlM (r.readField source) draft =
      (entries.filterMap r.part?).foldlM (setOnce source) draft := by
  induction entries generalizing draft values with
  | nil => rfl
  | cons entry entries ih =>
    obtain ⟨key, node⟩ := entry
    obtain ⟨name, value, rest, rfl, hnode, hrest, _⟩ := Node.readFields_cons_eq_ok_iff.mp h
    rw [List.foldlM_cons, List.filterMap_cons, part?_name]
    cases known : r.field? name with
    | none =>
      rw [readField_of_unknown known (skip_of_read node hnode)]
      exact ih hrest
    | some f =>
      rw [readField_of_known known, Option.map_some, List.foldlM_cons]
      congr 1
      funext next
      exact ih hrest

/-- A list that ends where it should gives fields until it has no more; the fields left over must do
without. -/
theorem readItems_eq_ok_iff {source : Source} {index : Nat} {draft draft' : δ}
    {fields : List (Field δ)} {items left : List Node} :
    r.readItems source .closed index draft fields items = .ok (draft', left) ↔
      (fields.zip items).foldlM (setNext source) draft = .ok draft' ∧
        (∀ f ∈ fields.drop items.length, f.required = false) ∧ items.drop fields.length = left := by
  induction fields generalizing index draft items with
  | nil =>
    rw [readItems]
    simp [pure, Except.pure]
  | cons f fields ih =>
    cases items with
    | nil =>
      rw [readItems]
      simp only [ListEnd.read, bind, Except.bind]
      cases required : f.required with
      | true => simp [required, throw, throwThe, MonadExceptOf.throw]
      | false => simpa [required, pure, Except.pure] using @ih (index + 1) draft []
    | cons item items =>
      rw [readItems, List.zip_cons_cons, List.foldlM_cons]
      simp only [bind_eq_ok_iff, ih]
      simp only [List.length_cons, List.drop_succ_cons, setNext]
      grind

theorem closeItems_eq_ok_iff {source : Source} {length : Nat} {left : List Node} {u : Unit} :
    closeItems source length .closed left = .ok u ↔ left = [] := by
  cases source <;> cases left <;> simp [closeItems, ListEnd.close, ListEnd.read]

theorem read_arr_eq_ok_iff {source inner : Source} (entered : source.enter = .ok inner)
    {items : List Node} {draft : δ} :
    r.read source (.arr items .closed) = .ok draft ↔
      (r.fields.zip items).foldlM (setNext inner) r.empty = .ok draft ∧
        (∀ f ∈ r.fields.drop items.length, f.required = false) ∧
        items.length ≤ r.fields.length := by
  rw [read, entered, ← List.drop_eq_nil_iff]
  simp only [bind_eq_ok_iff, Except.ok.injEq, exists_eq_left', Prod.exists, readItems_eq_ok_iff,
    closeItems_eq_ok_iff, pure, Except.pure]
  grind

theorem read_obj_eq_ok_iff {source inner : Source} (entered : source.enter = .ok inner)
    {whole : Source} {entries : List (Key × Node)} {values : List (String × Json)}
    (h : Node.readFields whole entries = .ok values) {draft : δ} :
    r.read source (.obj entries .closed) = .ok draft ↔
      (entries.filterMap r.part?).foldlM (setOnce inner) r.empty = .ok draft ∧
        require draft r.fields = .ok () := by
  rw [read, entered]
  simp only [bind_eq_ok_iff, Except.ok.injEq, exists_eq_left', foldlM_readField h,
    ObjectEnd.read, pure, Except.pure]
  grind

section
variable {source : Source} {draft draft' : δ}

theorem nodup_of_foldlM_setOnce (lawful : r.Lawful) {parts : List (Part δ)}
    (known : ∀ part ∈ parts, part.1 ∈ r.fields)
    (h : parts.foldlM (setOnce source) draft = .ok draft') :
    (parts.map (·.1.name)).Nodup ∧ ∀ part ∈ parts, part.1.isSet draft = false := by
  induction parts generalizing draft with
  | nil => exact ⟨List.nodup_nil, nofun⟩
  | cons part parts ih =>
    rw [List.forall_mem_cons] at known ⊢
    obtain ⟨next, set, h⟩ := bind_eq_ok_iff.mp h
    obtain ⟨unset, set⟩ := setOnce_eq_ok_iff.mp set
    obtain ⟨nodup, rest⟩ := ih known.2 h
    have later : ∀ other ∈ parts, other.1.isSet draft = false ∧ other.1.name ≠ part.1.name := by
      intro other mem
      have notNext : ¬ (other.1.isSet draft = true ∨ other.1.name = part.1.name) := by
        rw [← lawful.isSet_set known.1 (known.2 other mem) set, rest other mem]
        exact Bool.false_ne_true
      rw [not_or, Bool.not_eq_true] at notNext
      exact notNext
    refine ⟨?_, unset, fun other mem => (later other mem).1⟩
    rw [List.map_cons, List.nodup_cons]
    refine ⟨fun mem => ?_, nodup⟩
    obtain ⟨other, mem, same⟩ := List.mem_map.mp mem
    exact (later other mem).2 same

theorem setOnce_comm (lawful : r.Lawful) {p q : Part δ} (hp : p.1 ∈ r.fields)
    (hq : q.1 ∈ r.fields) (ne : p.1.name ≠ q.1.name)
    (h : setOnce source draft p >>= (setOnce source · q) = .ok draft') :
    setOnce source draft q >>= (setOnce source · p) = .ok draft' := by
  obtain ⟨afterP, setP, setQ⟩ := bind_eq_ok_iff.mp h
  obtain ⟨unsetP, setP⟩ := setOnce_eq_ok_iff.mp setP
  obtain ⟨unsetQ, setQ⟩ := setOnce_eq_ok_iff.mp setQ
  obtain ⟨afterQ, setQ', setP'⟩ := lawful.set_comm hp hq ne setP setQ
  have keptQ := lawful.isSet_set hp hq setP
  have keptP := lawful.isSet_set hq hp setQ'
  refine bind_eq_ok_iff.mpr ⟨afterQ, setOnce_eq_ok_iff.mpr ⟨?_, setQ'⟩,
    setOnce_eq_ok_iff.mpr ⟨?_, setP'⟩⟩
  · grind
  · grind

theorem foldlM_eq_ok_of_perm {step : δ → α → Except ε δ} {l l' : List α} (perm : l.Perm l')
    (comm : ∀ p ∈ l, ∀ q ∈ l, ∀ {draft draft'}, step draft p >>= (step · q) = .ok draft' →
      step draft q >>= (step · p) = .ok draft') {draft draft' : δ}
    (h : l.foldlM step draft = .ok draft') : l'.foldlM step draft = .ok draft' := by
  induction perm generalizing draft with
  | nil => exact h
  | cons p _ ih =>
    obtain ⟨next, first, rest⟩ := bind_eq_ok_iff.mp h
    refine bind_eq_ok_iff.mpr ⟨next, first, ih (fun p hp q hq => ?_) rest⟩
    exact comm p (List.mem_cons_of_mem _ hp) q (List.mem_cons_of_mem _ hq)
  | swap p q l =>
    rw [List.foldlM_cons] at h ⊢
    simp only [List.foldlM_cons, ← bind_assoc] at h ⊢
    obtain ⟨next, both, rest⟩ := bind_eq_ok_iff.mp h
    exact bind_eq_ok_iff.mpr ⟨next, comm q (by simp) p (by simp) both, rest⟩
  | trans first _ ih₁ ih₂ =>
    refine ih₂ (fun p hp q hq => ?_) (ih₁ comm h)
    exact comm p (first.mem_iff.mpr hp) q (first.mem_iff.mpr hq)

theorem foldlM_setOnce_of_perm (lawful : r.Lawful) {parts parts' : List (Part δ)}
    (known : ∀ part ∈ parts, part.1 ∈ r.fields) (nodup : (parts.map (·.1.name)).Nodup)
    (perm : parts.Perm parts') (h : parts.foldlM (setOnce source) draft = .ok draft') :
    parts'.foldlM (setOnce source) draft = .ok draft' := by
  refine foldlM_eq_ok_of_perm perm (fun p hp q hq _ _ h => ?_) h
  by_cases same : p.1.name = q.1.name
  · obtain rfl := List.inj_on_of_nodup_map nodup hp hq same
    exact h
  · exact setOnce_comm lawful (known p hp) (known q hq) same h

end

/-- What the fields of a record are read from in the object of a value. -/
def given (r : Record δ) (fields : List (String × Json)) : List (Part δ) :=
  fields.filterMap fun (name, value) => (r.field? name).map fun f => (f, .ofJson value)

theorem parts_ofJson_obj (fields : List (String × Json)) :
    (Node.ofJsonFields fields).filterMap r.part? = r.given fields := by
  induction fields with
  | nil => rfl
  | cons field fields ih =>
    obtain ⟨name, value⟩ := field
    rw [Node.ofJsonFields, given, List.filterMap_cons, List.filterMap_cons, ih]
    rfl

theorem given_append (fields fields' : List (String × Json)) :
    r.given (fields ++ fields') = r.given fields ++ r.given fields' :=
  List.filterMap_append

theorem given_cons (field : String × Json) (fields : List (String × Json)) :
    r.given (field :: fields) = r.given [field] ++ r.given fields :=
  given_append [field] fields

theorem given_perm {fields fields' : List (String × Json)} (perm : fields.Perm fields') :
    (r.given fields).Perm (r.given fields') :=
  perm.filterMap _

/-- A field that replaces another is none of the record's, so its place does not matter. -/
theorem given_insertField_perm {name : String} {value : Json} {fields : List (String × Json)}
    (fresh : ∀ f, r.field? name = some f → ∀ part ∈ r.given fields, part.1.name ≠ f.name) :
    (r.given (insertField name value fields)).Perm (r.given ((name, value) :: fields)) := by
  fun_induction insertField name value fields with
  | case1 => exact .refl _
  | case2 n v fields before => exact .refl _
  | case3 v fields _ =>
    cases known : r.field? name with
    | none => simp [given, known]
    | some f => exact absurd rfl (fresh f known (f, .ofJson v) (by simp [given, known]))
  | case4 n v fields _ _ ih =>
    have rest : ∀ f, r.field? name = some f → ∀ part ∈ r.given fields, part.1.name ≠ f.name := by
      intro f known part mem
      refine fresh f known part ?_
      rw [given_cons]
      exact List.mem_append_right _ mem
    have inner : (r.given ((n, v) :: insertField name value fields)).Perm
        (r.given ((n, v) :: (name, value) :: fields)) := by
      rw [given_cons, given_cons (n, v) ((name, value) :: fields)]
      exact (ih rest).append_left _
    exact inner.trans (given_perm (.swap ..))

/-- The fields of an object, put in order, are the fields as they come. -/
theorem given_foldl_insertField_perm {fields before : List (String × Json)}
    (nodup : ((r.given (before ++ fields)).map (·.1.name)).Nodup) :
    (r.given (fields.foldl (fun acc (name, value) => insertField name value acc) before)).Perm
      (r.given (before ++ fields)) := by
  induction fields generalizing before with
  | nil =>
    rw [List.append_nil]
    exact .refl _
  | cons field fields ih =>
    obtain ⟨name, value⟩ := field
    have fresh : ∀ f, r.field? name = some f →
        ∀ part ∈ r.given before, part.1.name ≠ f.name := by
      intro f known part mem
      rw [given_append, List.map_append, List.nodup_append] at nodup
      refine nodup.2.2 _ (List.mem_map_of_mem mem) _ ?_
      simp [given, known]
    have inserted : (r.given (insertField name value before ++ fields)).Perm
        (r.given (before ++ (name, value) :: fields)) := by
      have moved : (r.given ((name, value) :: (before ++ fields))).Perm
          (r.given (before ++ (name, value) :: fields)) := given_perm List.perm_middle.symm
      refine .trans ?_ moved
      rw [given_append, ← List.cons_append, given_append]
      exact (given_insertField_perm fresh).append_right _
    exact (ih ((inserted.map _).nodup_iff.mpr nodup)).trans inserted

/-- Fields that come in any order are read as they are in order, just when none comes twice. -/
theorem foldlM_given_eq_ok_iff (lawful : r.Lawful) {source : Source} {draft draft' : δ}
    {fields sorted : List (String × Json)} (h : ofFields fields = .obj sorted) :
    (r.given fields).foldlM (setOnce source) draft = .ok draft' ↔
      ((r.given fields).map (·.1.name)).Nodup ∧
        (r.given sorted).foldlM (setOnce source) draft = .ok draft' := by
  have known : ∀ part ∈ r.given fields, part.1 ∈ r.fields := by
    intro part mem
    rw [← parts_ofJson_obj] at mem
    exact @mem_of_parts _ r (.obj (Node.ofJsonFields fields) .closed) part mem
  have perm : ((r.given fields).map (·.1.name)).Nodup →
      (r.given sorted).Perm (r.given fields) := by
    intro nodup
    cases h
    exact given_foldl_insertField_perm nodup
  constructor
  · intro read
    have nodup := (nodup_of_foldlM_setOnce lawful known read).1
    exact ⟨nodup, foldlM_setOnce_of_perm lawful known nodup (perm nodup).symm read⟩
  · rintro ⟨nodup, read⟩
    have same := perm nodup
    exact foldlM_setOnce_of_perm lawful (fun part mem => known part (same.mem_iff.mp mem))
      ((same.map _).nodup_iff.mpr nodup) same read

end DataGrid.Json.Record
