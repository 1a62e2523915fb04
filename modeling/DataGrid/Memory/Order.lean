import DataGrid.Operand
import DataGrid.SortKey

namespace DataGrid.Memory

/-- A value against a scalar operand. Numbers compare with texts that name numbers; values of other
kinds do not compare. -/
def compareScalar : Json → Operand → Option Ordering
  | .num n, .int i =>
    match n.toInt64? with
    | some m => some (compare m.toInt i.toInt)
    | none => n.toDouble.compare? (.ofInt i.toInt)
  | .num n, .float x => n.toDouble.compare? x
  | .num n, .str s => (Double.parse? (Text.trim s)).bind n.toDouble.compare?
  | .str s, .str t => some (compare s t)
  | .str s, .int i => (Double.parse? (Text.trim s)).bind (·.compare? (.ofInt i.toInt))
  | .str s, .float x => (Double.parse? (Text.trim s)).bind (·.compare? x)
  | .bool a, .bool b => some (compare a b)
  | _, _ => none

/-- The place of a kind of value among the others; a missing value counts as null. -/
def kindRank : Option Json → Nat
  | none | some .null => 0
  | some (.bool _) => 1
  | some (.num _) => 2
  | some (.str _) => 3
  | some (.arr _) => 4
  | some (.obj _) => 5

def compareNumbers (m n : Json.Number) : Ordering :=
  match m.toInt64?, n.toInt64? with
  | some m, some n => compare m.toInt n.toInt
  | _, _ => (m.toDouble.compare? n.toDouble).getD .eq

def compareValues : Option Json → Option Json → Ordering
  | some (.num m), some (.num n) => compareNumbers m n
  | some (.str s), some (.str t) => compare s t
  | some (.bool a), some (.bool b) => compare a b
  | a, b => compare (kindRank a) (kindRank b)

def directed : Direction → Ordering → Ordering
  | .asc, o => o
  | .desc, o => o.swap

def compareRows : List SortKey → Json → Json → Ordering
  | [], _, _ => .eq
  | key :: keys, a, b =>
    (directed key.direction (compareValues (a.get? key.field) (b.get? key.field))).then
      (compareRows keys a b)

/-- A row put into sorted rows, last first, after all that it is not less than. -/
def insertRow (keys : List SortKey) (row : Json) : List Json → List Json
  | [] => [row]
  | last :: before =>
    if compareRows keys row last = .lt then last :: insertRow keys row before
    else row :: last :: before

/-- Rows in the order of the keys; rows that no key tells apart keep their order. -/
def sortRows (keys : List SortKey) (rows : List Json) : List Json :=
  (rows.foldl (fun sorted row => insertRow keys row sorted) []).reverse

end DataGrid.Memory
