import DataGrid.Proofs.Json.Faithful
import DataGrid.Proofs.Operand

namespace DataGrid

namespace Operand

def list? : Json → Option Operand
  | .arr items => (firstFitItems? items).map .list
  | _ => none

/-- The kinds of operands in the order in which they are tried. -/
def kinds : List (Json → Option Operand) :=
  [bool?, int?, float?, str?, list?, null?]

theorem firstFit?_eq_findSome? (value : Json) : firstFit? value = kinds.findSome? (· value) := by
  cases value with
  | num n =>
    have first : kinds.findSome? (· (.num n)) = (int? (.num n)).or (float? (.num n)) := by
      cases fits : int? (.num n) <;> simp only [kinds, List.findSome?, bool?, fits] <;> rfl
    rw [first]
    rfl
  | arr items =>
    have only : kinds.findSome? (· (.arr items)) = list? (.arr items) := by
      simp only [kinds, List.findSome?, bool?, int?, float?, str?]
      cases list? (.arr items) <;> rfl
    rw [only]
    rfl
  | _ => rfl

mutual

theorem firstFit?_eq_ofJson? : (value : Json) → firstFit? value = ofJson? value
  | .null | .bool _ | .str _ | .obj _ => rfl
  | .num n => by
    rw [ofJson?, ofNumber]
    change (n.toInt64?.map int).or (some (float n.toDouble)) = _
    cases n.toInt64? <;> rfl
  | .arr items => by
    rw [firstFit?, ofJson?, firstFitItems?_eq_ofJsonItems? items]

theorem firstFitItems?_eq_ofJsonItems? : (items : List Json) →
    firstFitItems? items = ofJsonItems? items
  | [] => rfl
  | item :: items => by
    rw [firstFitItems?, ofJsonItems?, firstFit?_eq_ofJson? item,
      firstFitItems?_eq_ofJsonItems? items]

end

mutual

theorem exists_read_ofJson : (value : Json) →
    ∃ held, (Json.Node.ofJson value).read .value = .ok held ∧ ofJson? held = ofJson? value
  | .null => ⟨.null, rfl, rfl⟩
  | .bool b => ⟨.bool b, rfl, rfl⟩
  | .num n => ⟨.num n, rfl, rfl⟩
  | .str s => ⟨.str s, rfl, rfl⟩
  | .arr items => by
    obtain ⟨held, read, same⟩ := exists_readItems_ofJsonItems items
    refine ⟨.arr held, ?_, by rw [ofJson?, ofJson?, same]⟩
    rw [Json.Node.ofJson, Json.Node.read]
    simp only [Json.Source.enter, bind, Except.bind, read]
    rfl
  | .obj fields => by
    obtain ⟨held, read⟩ := exists_readFields_ofJsonFields fields
    refine ⟨Json.ofFields held, ?_, rfl⟩
    rw [Json.Node.ofJson, Json.Node.read]
    simp only [Json.Source.enter, bind, Except.bind, read]
    rfl

theorem exists_readItems_ofJsonItems : (items : List Json) →
    ∃ held, Json.Node.readItems .value (Json.Node.ofJsonItems items) = .ok held ∧
      ofJsonItems? held = ofJsonItems? items
  | [] => ⟨[], rfl, rfl⟩
  | item :: items => by
    obtain ⟨first, readFirst, same⟩ := exists_read_ofJson item
    obtain ⟨rest, readRest, sameRest⟩ := exists_readItems_ofJsonItems items
    refine ⟨first :: rest, ?_, by rw [ofJsonItems?, ofJsonItems?, same, sameRest]⟩
    rw [Json.Node.ofJsonItems, Json.Node.readItems, readFirst, readRest]
    rfl

theorem exists_readFields_ofJsonFields : (fields : List (String × Json)) →
    ∃ held, Json.Node.readFields .value (Json.Node.ofJsonFields fields) = .ok held
  | [] => ⟨[], rfl⟩
  | (name, value) :: fields => by
    obtain ⟨first, readFirst, -⟩ := exists_read_ofJson value
    obtain ⟨rest, readRest⟩ := exists_readFields_ofJsonFields fields
    refine ⟨(name, first) :: rest, ?_⟩
    rw [Json.Node.ofJsonFields, Json.Node.readFields, readFirst, readRest]
    rfl

end

/-- What decoding comes to once the value is at hand. -/
def orNoVariant : Option Operand → Except Json.Fault Operand
  | some operand => .ok operand
  | none => .error (.mismatch (.noVariant "FilterValue"))

theorem decode_eq (source : Json.Source) (node : Json.Node) :
    decode source node = node.read source >>= fun value => orNoVariant (ofJson? value) := by
  unfold decode
  congr 1
  funext value
  rw [firstFit?_eq_ofJson?]
  cases ofJson? value <;> rfl

theorem decodeValue_eq (value : Json) :
    Json.decodeValue decode value = orNoVariant (ofJson? value) := by
  obtain ⟨held, read, same⟩ := exists_read_ofJson value
  rw [Json.decodeValue, decode_eq, read, ← same]
  rfl

theorem orNoVariant_eq_ok_iff {v : Option Operand} {operand : Operand} :
    orNoVariant v = .ok operand ↔ v = some operand := by
  cases v <;> simp [orNoVariant]

theorem orNoVariant_eq_error_iff {v : Option Operand} {fault : Json.Fault} :
    orNoVariant v = .error fault ↔ v = none ∧ fault = .mismatch (.noVariant "FilterValue") := by
  cases v <;> simp [orNoVariant, eq_comm]

theorem decodeText_eq_ok_iff {text : String} {operand : Operand} :
    Json.decodeText decode text = .ok operand ↔
      ∃ value, Json.parse text = .ok value ∧ ofJson? value = some operand := by
  unfold Json.parse Json.decodeText
  simp only [Json.Document.decode_eq_ok_iff, decode_eq, bind_eq_ok_iff, orNoVariant_eq_ok_iff]
  constructor
  · rintro ⟨⟨value, root, same⟩, whole⟩
    exact ⟨value, ⟨root, whole⟩, same⟩
  · rintro ⟨value, ⟨root, whole⟩, same⟩
    exact ⟨⟨value, root, same⟩, whole⟩

mutual

def isFinite : Operand → Bool
  | .float x => x.isFinite
  | .list items => areFinite items
  | _ => true

def areFinite : List Operand → Bool
  | [] => true
  | item :: items => item.isFinite && areFinite items

end

mutual

theorem ofJson?_toJson_eq_some_iff : (operand : Operand) →
    (ofJson? (toJson operand) = some operand ↔ operand.isFinite = true)
  | .bool _ | .str _ | .null => iff_of_true rfl rfl
  | .int i => iff_of_true (ofJson?_ofInt64 i) rfl
  | .float (.finite x) => iff_of_true rfl rfl
  | .float .nan | .float (.infinite _) => iff_of_false nofun nofun
  | .list items => by
    rw [toJson, ofJson?, isFinite, ← ofJsonItems?_toJsonItems_eq_some_iff items]
    simp

theorem ofJsonItems?_toJsonItems_eq_some_iff : (items : List Operand) →
    (ofJsonItems? (toJsonItems items) = some items ↔ areFinite items = true)
  | [] => iff_of_true rfl rfl
  | item :: items => by
    rw [toJsonItems, ofJsonItems?, areFinite, Bool.and_eq_true, ← ofJson?_toJson_eq_some_iff item,
      ← ofJsonItems?_toJsonItems_eq_some_iff items]
    cases ofJson? (toJson item) <;> cases ofJsonItems? (toJsonItems items) <;> simp

end

/-- A value is decoded alike by its kind and as the first kind of operand that it fits, and a text
like the value that it holds. Only values that hold an object are refused. An operand is read back
from what it is encoded as, each part as the kind that it was, just when its numbers are finite. -/
theorem decoders_agree_and_invert_encoding (value : Json) (operand : Operand) :
    firstFit? value = kinds.findSome? (· value) ∧
    (ofJson? value = some operand ↔ Json.decodeValue decode value = .ok operand) ∧
    (ofJson? value = none ↔ value.holdsObject = true) ∧
    (Json.decodeValue decode value = .error (.mismatch (.noVariant "FilterValue")) ↔
      value.holdsObject = true) ∧
    (∀ text, Json.decodeText decode text = .ok operand ↔
      ∃ held, Json.parse text = .ok held ∧ ofJson? held = some operand) ∧
    (ofJson? (toJson operand) = some operand ↔ operand.isFinite = true) := by
  have refused : ofJson? value = none ↔ value.holdsObject = true := by
    rw [← Option.isNone_iff_eq_none, ← Option.not_isSome, isSome_ofJson?, Bool.not_not]
  refine ⟨firstFit?_eq_findSome? value, ?_, refused, ?_, fun _ => decodeText_eq_ok_iff,
    ofJson?_toJson_eq_some_iff operand⟩
  · rw [decodeValue_eq, orNoVariant_eq_ok_iff]
  · rw [decodeValue_eq, orNoVariant_eq_error_iff, and_iff_left rfl, refused]

end Operand

end DataGrid
