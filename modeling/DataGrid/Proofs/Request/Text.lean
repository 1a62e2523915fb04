import DataGrid.Proofs.Json.FaithfulRecord
import DataGrid.Request
import Mathlib

namespace DataGrid
open Json (Faithful Node)

namespace SortKey

theorem record_lawful : record.Lawful where
  distinct := by decide
  isSet_set hf hg h := by
    simp only [record, List.mem_cons, List.not_mem_nil, or_false] at hf hg
    rcases hf with rfl | rfl
    all_goals
      obtain ⟨value, _, rfl⟩ := return_eq_ok_iff.mp h
      rcases hg with rfl | rfl <;> simp
  set_comm hf hg ne first second := by
    simp only [record, List.mem_cons, List.not_mem_nil, or_false] at hf hg
    rcases hf with rfl | rfl <;> rcases hg with rfl | rfl <;> try exact absurd rfl ne
    -- what is put into one place leaves the other as it is
    all_goals
      obtain ⟨a, read, rfl⟩ := return_eq_ok_iff.mp first
      obtain ⟨b, read', rfl⟩ := return_eq_ok_iff.mp second
      exact ⟨_, return_eq_ok_iff.mpr ⟨b, read', rfl⟩, return_eq_ok_iff.mpr ⟨a, read, rfl⟩⟩

theorem faithful_decode : Faithful decode record.Unrepeated := by
  have fields : ∀ f ∈ record.fields, ∀ draft,
      Faithful (fun source node => f.set source node draft) fun _ => True := by
    intro f hf draft
    simp only [record, List.mem_cons, List.not_mem_nil, or_false] at hf
    rcases hf with rfl | rfl
    · exact Faithful.readString.put _
    · exact Faithful.readBool.put _
  refine ((Json.Record.faithful_read fields record_lawful).map ofDraft).congr fun node => ?_
  exact (and_iff_left fun _ _ => trivial).symm

end SortKey

namespace Request

theorem record_lawful : record.Lawful where
  distinct := by decide
  isSet_set hf hg h := by
    simp only [record, List.mem_cons, List.not_mem_nil, or_false] at hf hg
    rcases hf with rfl | rfl | rfl | rfl | rfl
    all_goals
      obtain ⟨value, _, rfl⟩ := return_eq_ok_iff.mp h
      rcases hg with rfl | rfl | rfl | rfl | rfl <;> simp [freeField]
  set_comm hf hg ne first second := by
    simp only [record, List.mem_cons, List.not_mem_nil, or_false] at hf hg
    rcases hf with rfl | rfl | rfl | rfl | rfl <;> rcases hg with rfl | rfl | rfl | rfl | rfl <;>
      try exact absurd rfl ne
    -- what is put into one place leaves the other as it is
    all_goals
      obtain ⟨a, read, rfl⟩ := return_eq_ok_iff.mp first
      obtain ⟨b, read', rfl⟩ := return_eq_ok_iff.mp second
      exact ⟨_, return_eq_ok_iff.mpr ⟨b, read', rfl⟩, return_eq_ok_iff.mpr ⟨a, read, rfl⟩⟩

/-- No object of a text gives a field twice where it is read as a request or as a sort key. -/
structure Unrepeated (root : Node) : Prop where
  fields : record.Unrepeated root
  keys : ∀ part ∈ record.parts root, part.1.name = "sort" →
    ∀ key ∈ part.2.items, SortKey.record.Unrepeated key

theorem unrepeated_iff {root : Node} :
    Unrepeated root ↔ record.Unrepeated root ∧ ∀ part ∈ record.parts root, part.1.name = "sort" →
      ∀ key ∈ part.2.items, SortKey.record.Unrepeated key :=
  ⟨fun h => ⟨h.fields, h.keys⟩, fun h => ⟨h.1, h.2⟩⟩

instance {root : Node} : Decidable (Unrepeated root) :=
  decidable_of_iff' _ unrepeated_iff

theorem faithful_freeField {name : String} {get : Draft → Option (Option Json)}
    {set : Draft → Option Json → Draft} (draft : Draft) :
    Faithful (fun source node => (freeField name get set).set source node draft) fun _ => True :=
  (Faithful.node.optional trivial).put _

theorem faithful_decode : Faithful decode Unrepeated := by
  have fields : ∀ f ∈ record.fields, ∀ draft,
      Faithful (fun source node => f.set source node draft)
        fun node => f.name = "sort" → ∀ key ∈ node.items, SortKey.record.Unrepeated key := by
    intro f hf draft
    simp only [record, List.mem_cons, List.not_mem_nil, or_false] at hf
    rcases hf with rfl | rfl | rfl | rfl | rfl
    · exact (faithful_freeField draft).congr fun _ => iff_true_intro (absurd · (by decide))
    · have keys := (SortKey.faithful_decode.list.optional nofun).put
        fun keys => { draft with sort := some keys }
      exact keys.congr fun _ => forall_prop_of_true rfl
    · exact (faithful_freeField draft).congr fun _ => iff_true_intro (absurd · (by decide))
    · exact (faithful_freeField draft).congr fun _ => iff_true_intro (absurd · (by decide))
    · exact ((Faithful.readBool.optional trivial).put _).congr
        fun _ => iff_true_intro (absurd · (by decide))
  exact ((Json.Record.faithful_read fields record_lawful).map ofDraft).congr
    fun _ => unrepeated_iff

theorem ofDecoded_eq_ok_iff {decoded : Except Json.Fault Raw} {request : Request} :
    ofDecoded decoded = .ok request ↔ ∃ raw, decoded = .ok raw ∧ ofRaw raw = .ok request := by
  cases decoded with
  | error fault => exact iff_of_false nofun nofun
  | ok raw =>
    simp only [Except.ok.injEq, exists_eq_left']
    exact Iff.rfl

/-- A request is read from a text as from the value that the text holds, in whatever order its
fields come, whatever else its objects give, and whether it and its sort keys come as objects or as
lists; only a field that is given twice is refused in a text, where the value holds the last. -/
theorem ofText_eq_ok_iff_ofJson {text : String} {value : Json}
    (parsed : Json.parse text = .ok value) (request : Request) :
    ofText text = .ok request ↔
      Unrepeated (Json.Document.ofText text).root ∧ ofJson value = .ok request := by
  rw [ofText, ofJson, ofDecoded_eq_ok_iff, ofDecoded_eq_ok_iff]
  simp only [faithful_decode.decodeText_eq_ok_iff parsed]
  grind

/-- The selector of a sort key is its field by another name. -/
example : ¬ Unrepeated (Json.Document.ofText
    "\x7b\"sort\":[\x7b\"field\":\"age\",\"selector\":\"name\"\x7d]\x7d").root := by
  decide +kernel

/-- A request whose fields come in no order: one of them is null, one is not known and comes twice,
and its sort keys come in both forms. -/
def shuffledText : String :=
  "\x7b\"take\":2,\"sort\":[\x7b\"desc\":true,\"selector\":\"name\"\x7d,[\"age\"]]," ++
    "\"note\":[1],\"filter\":[\"age\",\">\",1],\"note\":null,\"skip\":null\x7d"

def shuffledJson : Json :=
  .ofFields
    [("take", .ofNat 2),
     ("sort",
      .arr [.ofFields [("desc", .bool true), ("selector", .str "name")], .arr [.str "age"]]),
     ("note", .null),
     ("filter", .arr [.str "age", .str ">", .ofNat 1]),
     ("skip", .null)]

def shuffled : Request where
  filter := some (.leaf ⟨"age", ">", .int 1⟩)
  sort := some [⟨"name", .desc⟩, ⟨"age", .asc⟩]
  skip := none
  take := some (.ofNat 2)
  requireTotalCount := false

theorem ofText_shuffled :
    Json.parse shuffledText = .ok shuffledJson ∧ ofText shuffledText = .ok shuffled := by
  have parsed : Json.parse shuffledText = .ok shuffledJson := by cbv
  have unrepeated : Unrepeated (Json.Document.ofText shuffledText).root := by decide +kernel
  have read : ofJson shuffledJson = .ok shuffled := by cbv
  exact ⟨parsed, (ofText_eq_ok_iff_ofJson parsed shuffled).mpr ⟨unrepeated, read⟩⟩

end Request

end DataGrid
