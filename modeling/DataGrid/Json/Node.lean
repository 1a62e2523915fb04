import DataGrid.Json.Token

namespace DataGrid.Json

inductive ListEnd where
  | closed
  | cutOff
  | junk
  | trailingComma
  /-- The last item holds the fault. -/
  | broken
deriving DecidableEq

inductive ObjectEnd where
  | closed
  | cutOff
  | cutOffAfterComma
  | junk
  | trailingComma
  /-- The last field holds the fault. -/
  | broken
deriving DecidableEq

/-- What stands in the place of a field's name. -/
inductive Key where
  | name (text : Lexeme String)
  | other

/-- A text that breaks off or goes wrong still has a tree, and the fault stands where a reader meets
it. In a field whose key is not a string the node is what stands in the key's place. -/
inductive Node where
  | literal (value : Lexeme Literal)
  | text (value : Lexeme String)
  | arr (items : List Node) (finish : ListEnd)
  | obj (fields : List (Key × Node)) (finish : ObjectEnd)
  | fault (reason : Fault)

/-- The tree of a text, and whether more stands after it. -/
structure Document where
  root : Node
  trailing : Bool

namespace Node

instance : Inhabited Node :=
  ⟨.literal (.ok .null)⟩

def malformed (reason : Malformation) : Node :=
  .fault (.malformed reason)

def ofToken : Token → Node
  | .listOpen => .arr [] .broken
  | .objectOpen => .obj [] .broken
  | .text value => .text value
  | .literal value => .literal value
  | _ => malformed .expectedValue

mutual

/-- The tree of a value, with the fields of objects in the order of their names. -/
def ofJson : Json → Node
  | .null => .literal (.ok .null)
  | .bool b => .literal (.ok (.bool b))
  | .num n => .literal (.ok (.num n))
  | .str s => .text (.ok s)
  | .arr items => .arr (ofJsonItems items) .closed
  | .obj fields => .obj (ofJsonFields fields) .closed

def ofJsonItems : List Json → List Node
  | [] => []
  | item :: items => ofJson item :: ofJsonItems items

def ofJsonFields : List (String × Json) → List (Key × Node)
  | [] => []
  | (name, value) :: fields => (.name (.ok name), ofJson value) :: ofJsonFields fields

end

/-- A list or an object that is still open, its parts last first. -/
inductive Frame where
  | list (items : List Node)
  | object (fields : List (Key × Node)) (key : Key)

def Frame.add (node : Node) : Frame → Frame
  | .list items => .list (node :: items)
  | .object fields key => .object ((key, node) :: fields) key

def Frame.closed : Frame → Node
  | .list items => .arr items.reverse .closed
  | .object fields _ => .obj fields.reverse .closed

def Frame.broken : Frame → Node
  | .list items => .arr items.reverse .broken
  | .object fields _ => .obj fields.reverse .broken

inductive Awaited where
  | value
  | firstItem
  | nextItem
  | firstKey
  | nextKey
  | colon
  | separator
deriving DecidableEq

inductive Progress where
  | under (awaited : Awaited) (stack : List Frame)
  | over (document : Document)

/-- The tree of a text that nobody reads past `node`. -/
def within (node : Node) (stack : List Frame) : Document :=
  ⟨stack.foldl (fun inner frame => (frame.add inner).broken) node, false⟩

/-- The tree of a text whose innermost open list or object ends before its bracket. -/
def unclosed (list : ListEnd) (object : ObjectEnd) : List Frame → Document
  | [] => ⟨malformed .expectedValue, false⟩
  | .list items :: stack => within (.arr items.reverse list) stack
  | .object fields _ :: stack => within (.obj fields.reverse object) stack

namespace Progress

def fail (reason : Malformation) (stack : List Frame) : Progress :=
  .over (within (malformed reason) stack)

def add (node : Node) : List Frame → Progress
  | [] => .over ⟨node, false⟩
  | frame :: stack => .under .separator (frame.add node :: stack)

def close : List Frame → Progress
  | [] => fail .expectedValue []
  | frame :: stack => add frame.closed stack

def value (stack : List Frame) : Token → Progress
  | .listOpen => .under .firstItem (.list [] :: stack)
  | .objectOpen => .under .firstKey (.object [] .other :: stack)
  | .text value => add (.text value) stack
  | .literal value => add (.literal value) stack
  | _ => fail .expectedValue stack

/-- The name of a field; anything else in its place is held in a field without a name. -/
def key : List Frame → Token → Progress
  | .object fields _ :: stack, .text name => .under .colon (.object fields (.name name) :: stack)
  | .object fields _ :: stack, token =>
    .over (within (.ofToken token) (.object fields .other :: stack))
  | stack, _ => fail .expectedValue stack

def separator : List Frame → Token → Progress
  | stack@(.list _ :: _), .comma => .under .nextItem stack
  | stack@(.object _ _ :: _), .comma => .under .nextKey stack
  | stack@(.list _ :: _), .listClose => close stack
  | stack@(.object _ _ :: _), .objectClose => close stack
  | stack, _ => .over (unclosed .junk .junk stack)

def step : Progress → Token → Progress
  | .over document, _ => .over { document with trailing := true }
  | .under .value stack, token => value stack token
  | .under .firstItem stack, .listClose => close stack
  | .under .firstItem stack, token => value stack token
  | .under .nextItem stack, .listClose => .over (unclosed .trailingComma .broken stack)
  | .under .nextItem stack, token => value stack token
  | .under .firstKey stack, .objectClose => close stack
  | .under .firstKey stack, token => key stack token
  | .under .nextKey stack, .objectClose => .over (unclosed .broken .trailingComma stack)
  | .under .nextKey stack, token => key stack token
  | .under .colon stack, .colon => .under .value stack
  | .under .colon stack, _ => fail .expectedColon stack
  | .under .separator stack, token => separator stack token

def finish : Progress → Document
  | .over document => document
  | .under .value stack => within (.fault (.cutOff .value)) stack
  | .under .firstItem stack => unclosed .cutOff .broken stack
  | .under .nextItem stack => within (.fault (.cutOff .value)) stack
  | .under .firstKey stack => unclosed .broken .cutOff stack
  | .under .nextKey stack => unclosed .broken .cutOffAfterComma stack
  | .under .colon stack => within (.fault (.cutOff .object)) stack
  | .under .separator stack => unclosed .cutOff .cutOff stack

end Progress

end Node

def Document.ofTokens (tokens : List Token) : Document :=
  (tokens.foldl Node.Progress.step (.under .value [])).finish

def Document.ofText (text : String) : Document :=
  .ofTokens (tokens text.toList)

end DataGrid.Json
