import DataGrid.Operand

namespace DataGrid

inductive Comparison where
  | equal
  | notEqual
  | greater
  | greaterOrEqual
  | less
  | lessOrEqual
  | like
  | notLike
deriving DecidableEq

namespace Comparison

def symbol : Comparison → String
  | .equal => "="
  | .notEqual => "<>"
  | .greater => ">"
  | .greaterOrEqual => ">="
  | .less => "<"
  | .lessOrEqual => "<="
  | .like => "like"
  | .notLike => "not like"

def all : List Comparison :=
  [.equal, .notEqual, .greater, .greaterOrEqual, .less, .lessOrEqual, .like, .notLike]

def ofSymbol? (s : String) : Option Comparison :=
  all.find? (·.symbol == s)

def isOrdering : Comparison → Bool
  | .greater | .greaterOrEqual | .less | .lessOrEqual => true
  | _ => false

end Comparison

/-- Where any run of characters may stand around a pattern. -/
inductive Wildcard where
  | both
  | trailing
  | leading
deriving DecidableEq

/-- Wildcards that the pattern holds itself keep their meaning. -/
def Wildcard.wrap (w : Wildcard) (pattern : String) : String :=
  match w with
  | .both => "%" ++ pattern ++ "%"
  | .trailing => pattern ++ "%"
  | .leading => "%" ++ pattern

structure Operator where
  name : String
  comparison : Comparison
  wildcard : Option Wildcard
deriving DecidableEq

namespace Operator

def all : List Operator :=
  [⟨"equal", .equal, none⟩, ⟨"notEqual", .notEqual, none⟩, ⟨"greaterThan", .greater, none⟩,
    ⟨"greaterThanOrEqual", .greaterOrEqual, none⟩, ⟨"lessThan", .less, none⟩,
    ⟨"lessThanOrEqual", .lessOrEqual, none⟩, ⟨"contains", .like, some .both⟩,
    ⟨"notContains", .notLike, some .both⟩, ⟨"startsWith", .like, some .trailing⟩,
    ⟨"endsWith", .like, some .leading⟩]

def ofName? (name : String) : Option Operator :=
  all.find? (·.name == name)

/-- Whether an operand fits: patterns and orderings take a scalar, equality also null and a list of
scalars. -/
def accepts (o : Operator) (v : Operand) : Bool :=
  if o.wildcard.isSome || o.comparison.isOrdering then v.isScalar
  else
    match v with
    | .list items => items.all Operand.isScalar
    | _ => true

/-- The operand that is compared with: a pattern gets its wildcards, all else stays as it is. -/
def operand (o : Operator) (v : Operand) : Operand :=
  match o.wildcard, v.text? with
  | some w, some s => .str (w.wrap s)
  | _, _ => v

def prepare? (o : Operator) (v : Operand) : Option Operand :=
  if o.accepts v then some (o.operand v) else none

end Operator

end DataGrid
