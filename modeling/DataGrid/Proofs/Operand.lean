import DataGrid.Operand

namespace DataGrid

mutual

def Json.holdsObject : Json → Bool
  | .obj _ => true
  | .arr items => holdsObjectIn items
  | _ => false

def Json.holdsObjectIn : List Json → Bool
  | [] => false
  | item :: items => item.holdsObject || holdsObjectIn items

end

namespace Operand

theorem ofJsonItems?_cons_isSome (item : Json) (items : List Json) :
    (ofJsonItems? (item :: items)).isSome =
      ((ofJson? item).isSome && (ofJsonItems? items).isSome) := by
  rw [ofJsonItems?]
  cases ofJson? item <;> cases ofJsonItems? items <;> rfl

mutual

theorem isSome_ofJson? : (value : Json) → (ofJson? value).isSome = !value.holdsObject
  | .null | .bool _ | .num _ | .str _ | .obj _ => rfl
  | .arr items => by
    rw [ofJson?, Option.isSome_map, Json.holdsObject]
    exact isSome_ofJsonItems? items

theorem isSome_ofJsonItems? : (items : List Json) →
    (ofJsonItems? items).isSome = !Json.holdsObjectIn items
  | [] => rfl
  | item :: items => by
    rw [ofJsonItems?_cons_isSome, isSome_ofJson? item, isSome_ofJsonItems? items,
      Json.holdsObjectIn, Bool.not_or]

end

theorem exists_ofJson?_iff {value : Json} :
    (∃ operand, ofJson? value = some operand) ↔ value.holdsObject = false := by
  rw [← Option.isSome_iff_exists, isSome_ofJson?, Bool.not_eq_true']

theorem ofJson?_ofInt64 (i : Int64) : ofJson? (.ofInt64 i) = some (.int i) := by
  have fits : i.toInt < 0x8000000000000000 := Int64.toInt_lt i
  rw [Json.ofInt64, ofJson?, ofNumber, Json.Number.toInt64?]
  dsimp only
  rw [if_pos fits, Int64.ofInt_toInt]

end Operand

end DataGrid
