import DataGrid.Json.Decode

namespace DataGrid.Json

/-- One field of a record: its name and other names it goes by, how its value is put into what is
read so far, and whether it is there already. -/
structure Field (δ : Type) where
  name : String
  aliases : List String
  required : Bool
  isSet : δ → Bool
  set : Source → Node → δ → Except Fault δ

/-- A record by its fields in order, and what is read before any of them. -/
structure Record (δ : Type) where
  type : String
  empty : δ
  fields : List (Field δ)

namespace Record

def field? (r : Record δ) (name : String) : Option (Field δ) :=
  r.fields.find? fun f => f.name == name || f.aliases.contains name

/-- A field that is not known is passed over, and a known one must not come twice. -/
def readField (r : Record δ) (source : Source) (draft : δ) (entry : Key × Node) :
    Except Fault δ := do
  match r.field? (← entry.1.read) with
  | none =>
    entry.2.skip
    return draft
  | some f =>
    if f.isSet draft then throw (.mismatch (.duplicateField f.name))
    f.set source entry.2 draft

def require (draft : δ) : List (Field δ) → Except Fault Unit
  | [] => .ok ()
  | f :: fields =>
    if f.required && !f.isSet draft then .error (.mismatch (.missingField f.name))
    else require draft fields

def sizeText (r : Record δ) : String :=
  r.type ++ " with " ++ toString r.fields.length ++ " elements"

/-- Fields in order from the items of a list, and the items left over. -/
def readItems (r : Record δ) (source : Source) (finish : ListEnd) (index : Nat) (draft : δ) :
    List (Field δ) → List Node → Except Fault (δ × List Node)
  | [], items => .ok (draft, items)
  | f :: fields, [] => do
    finish.read
    if f.required then throw (.mismatch (.wrongLength index r.sizeText))
    readItems r source finish (index + 1) draft fields []
  | f :: fields, item :: items => do
    readItems r source finish (index + 1) (← f.set source item draft) fields items

/-- Nothing may be left over in a list that has all its fields. -/
def closeItems (source : Source) (length : Nat) (finish : ListEnd) (left : List Node) :
    Except Fault Unit :=
  match source, left with
  | .value, [] => .ok ()
  | .value, _ => .error (.mismatch (.wrongLength length "fewer elements in array"))
  | .text _, [] => finish.close
  | .text _, _ => .error (.malformed .trailingCharacters)

def read (r : Record δ) (source : Source) : Node → Except Fault δ
  | .arr items finish => do
    let (draft, left) ← r.readItems (← source.enter) finish 0 r.empty r.fields items
    closeItems source items.length finish left
    return draft
  | .obj fields finish => do
    let inner ← source.enter
    let draft ← fields.foldlM (r.readField inner) r.empty
    finish.read
    require draft r.fields
    return draft
  | node => node.wrong r.type

end Record

end DataGrid.Json
