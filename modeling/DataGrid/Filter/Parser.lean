import DataGrid.Filter.Tree
import DataGrid.Operand

namespace DataGrid

/-- A comparison as a client writes it. -/
structure Condition where
  field : String
  operator : String
  value : Operand

namespace Filter

/-- A step from a group to one of its items; a group given as an object holds them under a key. -/
inductive Step where
  | item (index : Nat)
  | child (key : String) (index : Nat)
deriving DecidableEq

/-- The way to a node from the root of a filter, outermost step first. -/
abbrev Path := List Step

def Step.text : Step → String
  | .item index => "[" ++ toString index ++ "]"
  | .child key index => "." ++ key ++ "[" ++ toString index ++ "]"

def Path.text (path : Path) : String :=
  "filter" ++ String.join (path.map Step.text)

inductive Fault where
  | notNode (kind : String)
  | neitherGroupNorComparison
  | noValue
  | wrongLength (length : Nat)
  | fieldNotNamed
  | operatorNotString
  | valueHoldsObject
  | unknownJoiner (symbol : String)
  | joinerNotString (kind : String)
  | childrenNotArray (key kind : String)
  | unknownSeparator (symbol : String)
  | straySeparator (symbol : String)
  | openEnd
deriving DecidableEq

def Fault.reason : Fault → String
  | .notNode kind => "expected an array or object, got " ++ kind
  | .neitherGroupNorComparison => "expected a group with filters or a comparison with a field"
  | .noValue => "comparison has no value"
  | .wrongLength length =>
    "comparison must be [field, operator, value], got " ++ toString length ++ " elements"
  | .fieldNotNamed => "field must be a non-empty string"
  | .operatorNotString => "operator must be a string"
  | .valueHoldsObject => "value must be a scalar, null or a list of scalars"
  | .unknownJoiner symbol =>
    "group operator must be \"and\" or \"or\", got " ++ Text.quoted symbol
  | .joinerNotString kind => "group operator must be a string, got " ++ kind
  | .childrenNotArray key kind => key ++ " must be an array, got " ++ kind
  | .unknownSeparator symbol => "expected \"and\" or \"or\", got " ++ Text.quoted symbol
  | .straySeparator symbol => "separator " ++ Text.quoted symbol ++ " must follow a filter node"
  | .openEnd => "group ends with a separator"

structure Malformed where
  path : Path
  fault : Fault
deriving DecidableEq

abbrev Parsed := Except Malformed

def comparison (path : Path) (field operator : Option Json) (value : Json) :
    Parsed (Tree Condition) :=
  match field with
  | some (.str field) =>
    if field = "" then .error ⟨path, .fieldNotNamed⟩
    else
      match operator with
      | some (.str operator) =>
        match Operand.ofJson? value with
        | some value => .ok (.leaf ⟨field, operator, value⟩)
        | none => .error ⟨path, .valueHoldsObject⟩
      | _ => .error ⟨path, .operatorNotString⟩
  | _ => .error ⟨path, .fieldNotNamed⟩

def arrayComparison (path : Path) : List Json → Parsed (Tree Condition)
  | [field, operator, value] => comparison path (some field) (some operator) value
  | items => .error ⟨path, .wrongLength items.length⟩

def objectComparison (path : Path) (object : Json) : Parsed (Tree Condition) :=
  match object.get? "field", object.get? "value" with
  | some field, some value => comparison path (some field) (object.get? "operator") value
  | some _, none => .error ⟨path, .noValue⟩
  | none, _ => .error ⟨path, .neitherGroupNorComparison⟩

/-- A group given as an object joins its children with `and` unless it names a joiner. -/
def groupJoiner (path : Path) : Option Json → Parsed Joiner
  | none => .ok .and
  | some (.str symbol) =>
    match Joiner.ofSymbol? symbol with
    | some joiner => .ok joiner
    | none => .error ⟨path, .unknownJoiner symbol⟩
  | some other => .error ⟨path, .joinerNotString other.kind⟩

/-- A separator has a node before it. -/
def separator (path : Path) (afterNode : Bool) (symbol : String) : Parsed Joiner :=
  match Joiner.ofSymbol? symbol with
  | none => .error ⟨path, .unknownSeparator symbol⟩
  | some joiner => if afterNode then .ok joiner else .error ⟨path, .straySeparator symbol⟩

/-- The items between two `or` separators: in an array `and` binds tighter, and stands for a
separator that is left out. -/
abbrev Run := List (Tree Condition)

def addToRun (node : Tree Condition) : List Run → List Run
  | [] => [[node]]
  | run :: runs => (node :: run) :: runs

def Run.toTree : Run → Tree Condition
  | [node] => node
  | nodes => .group .and nodes

def ofRuns : List Run → Tree Condition
  | [run] => .group .and run
  | runs => .group .or (runs.map Run.toTree)

mutual

def parseAt (path : Path) : Json → Parsed (Tree Condition)
  | .arr [] => .ok (.group .and [])
  | .arr (.str s :: items) => arrayComparison path (.str s :: items)
  | .arr items => (parseRuns path 0 false items).map ofRuns
  | .obj fields =>
    match childrenUnder "filters" path fields, childrenUnder "children" path fields with
    | some children, _ | none, some children => do
      let joiner ← groupJoiner path ((Json.obj fields).get? "operator")
      return .group joiner (← children ())
    | none, none => objectComparison path (.obj fields)
  | other => .error ⟨path, .notNode other.kind⟩

/-- The runs of an array group from its item `index` on. -/
def parseRuns (path : Path) (index : Nat) (afterNode : Bool) : List Json → Parsed (List Run)
  | [] => if afterNode then .ok [[]] else .error ⟨path, .openEnd⟩
  | .str symbol :: items => do
    let joiner ← separator (path ++ [.item index]) afterNode symbol
    let runs ← parseRuns path (index + 1) false items
    return match joiner with
      | .and => runs
      | .or => [] :: runs
  | item :: items => do
    let node ← parseAt (path ++ [.item index]) item
    let runs ← parseRuns path (index + 1) true items
    return addToRun node runs

/-- The nodes under a key of an object, if it has the key, once they are asked for. -/
def childrenUnder (key : String) (path : Path) :
    List (String × Json) → Option (Unit → Parsed (List (Tree Condition)))
  | [] => none
  | (name, value) :: fields =>
    if name = key then some fun _ => parseChildrenOf key path value
    else childrenUnder key path fields

def parseChildrenOf (key : String) (path : Path) : Json → Parsed (List (Tree Condition))
  | .arr items => parseChildren key path 0 items
  | other => .error ⟨path, .childrenNotArray key other.kind⟩

def parseChildren (key : String) (path : Path) (index : Nat) :
    List Json → Parsed (List (Tree Condition))
  | [] => .ok []
  | item :: items => do
    let node ← parseAt (path ++ [.child key index]) item
    let nodes ← parseChildren key path (index + 1) items
    return node :: nodes

end

def parse (filter : Json) : Parsed (Tree Condition) :=
  parseAt [] filter

end Filter

end DataGrid
