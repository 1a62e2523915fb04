import DataGrid.Json.Read

namespace DataGrid.Json.Node

/-- A scalar is known once it is read, a list or an object from its bracket. -/
def found : Node → Except Fault Found
  | .literal value => value.read.map fun
    | .null => .null
    | .bool b => .bool b
    | .num (.int i) => .int i
    | .num (.real x) => .real x
  | .text value => value.read.map .str
  | .arr _ _ => .ok .list
  | .obj _ _ => .ok .object
  | .fault reason => .error reason

def wrong (expected : String) (node : Node) : Except Fault α := do
  throw (.mismatch (.wrongType (← node.found) expected))

def readString : Node → Except Fault String
  | .text (.ok s) => .ok s
  | node => node.wrong "a string"

def readBool : Node → Except Fault Bool
  | .literal (.ok (.bool b)) => .ok b
  | node => node.wrong "a boolean"

def readNat : Node → Except Fault Nat
  | .literal (.ok (.num (.int i))) =>
    if 0 ≤ i.val then .ok i.val.toNat else .error (.mismatch (.negative i "u64"))
  | node => node.wrong "u64"

def readUnit : Node → Except Fault Unit
  | .literal (.ok .null) => .ok ()
  | node => node.wrong "unit"

def readOptional (read : Node → Except Fault α) : Node → Except Fault (Option α)
  | .literal (.ok .null) => .ok none
  | node => some <$> read node

def readList (read : Source → Node → Except Fault α) (source : Source) :
    Node → Except Fault (List α)
  | .arr items finish => do
    let inner ← source.enter
    let values ← items.mapM (read inner)
    finish.read
    return values
  | node => node.wrong "a sequence"

def knownVariant (known : List String) (name : String) : Except Fault String :=
  if name ∈ known then .ok name else .error (.mismatch (.unknownVariant name known))

/-- The name of a variant: a string, or the only key of an object that holds null. -/
def readVariant (known : List String) (source : Source) : Node → Except Fault String
  | .text name => do knownVariant known (← name.read)
  | .fault reason => .error reason
  | .obj fields finish => do
    match ← source.enter, fields with
    | .value, [(key, payload)] =>
      let name ← knownVariant known (← key.read)
      payload.readUnit
      return name
    | .value, _ => throw (.mismatch .notSingleKey)
    | .text _, [] =>
      finish.read
      throw (.malformed .expectedValue)
    | .text _, (key, payload) :: fields =>
      let name ← knownVariant known (← key.read)
      payload.readUnit
      match fields, finish with
      | [], .closed => return name
      | [], .cutOff => throw (.cutOff .object)
      | _, _ => throw (.malformed .expectedValue)
  | node =>
    match source with
    | .value => node.wrong "string or map"
    | .text _ => .error (.malformed .expectedValue)

end DataGrid.Json.Node
