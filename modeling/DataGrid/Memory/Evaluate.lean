import DataGrid.Clause
import DataGrid.Memory.Order
import DataGrid.Pattern

namespace DataGrid.Memory

mutual

/-- A list equals what one of its items equals, and nothing equals null. -/
def equals (value : Json) : Operand → Bool
  | .null => false
  | .list items => equalsAny value items
  | scalar => compareScalar value scalar == some .eq

def equalsAny (value : Json) : List Operand → Bool
  | [] => false
  | item :: items => equals value item || equalsAny value items

end

def text? : Json → Option String
  | .str s => some s
  | .num n => some n.text
  | .bool b => some (String.ofList (Json.writeBool b))
  | _ => none

/-- What has no text matches no pattern and fails none. -/
def matchesPattern (expected : Bool) (value : Json) (operand : Operand) : Bool :=
  match text? value, operand.text? with
  | some text, some pattern => Pattern.isMatch pattern text == expected
  | _, _ => false

def isNull : Operand → Bool
  | .null => true
  | _ => false

def present? (field : String) (row : Json) : Option Json :=
  match row.get? field with
  | some .null => none
  | value => value

def test (value : Json) (comparison : Comparison) (operand : Operand) : Bool :=
  match comparison with
  | .equal => equals value operand
  | .notEqual => !equals value operand
  | .greater => compareScalar value operand == some .gt
  | .greaterOrEqual => (compareScalar value operand).any (· != .lt)
  | .less => compareScalar value operand == some .lt
  | .lessOrEqual => (compareScalar value operand).any (· != .gt)
  | .like => matchesPattern true value operand
  | .notLike => matchesPattern false value operand

/-- A field that is missing or null satisfies nothing but equality with null. -/
def evaluate (p : Predicate) (row : Json) : Bool :=
  match present? p.field row with
  | none => p.comparison == .equal && isNull p.value
  | some value => test value p.comparison p.value

end DataGrid.Memory
