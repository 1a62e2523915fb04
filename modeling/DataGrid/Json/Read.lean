import DataGrid.Json.Node

namespace DataGrid.Json

/-- What a tree comes from; a text has room for so many more open lists and objects. -/
inductive Source where
  | text (room : Nat)
  | value

/-- So many lists and objects may nest where their values are kept; what is passed over may nest
without bound. -/
def Source.wholeText : Source :=
  .text 127

def Source.enter : Source → Except Fault Source
  | .text 0 => .error (.malformed .nestedTooDeep)
  | .text (room + 1) => .ok (.text room)
  | .value => .ok .value

def Lexeme.read : Lexeme α → Except Fault α
  | .ok value => .ok value
  | .bad reading _ => .error reading

def Lexeme.skip : Lexeme α → Except Fault Unit
  | .bad _ (some skipping) => .error skipping
  | _ => .ok ()

def Key.read : Key → Except Fault String
  | .name text => text.read
  | .other => .error (.malformed .keyNotString)

def Key.skip : Key → Except Fault Unit
  | .name text => text.skip
  | .other => .error (.malformed .keyNotString)

/-- The end of a list for one who asks for its next item. -/
def ListEnd.read : ListEnd → Except Fault Unit
  | .closed => .ok ()
  | .cutOff => .error (.cutOff .list)
  | .junk => .error (.malformed .expectedCommaOrListEnd)
  | .trailingComma => .error (.malformed .trailingComma)
  | .broken => .error (.malformed .expectedValue)

/-- The end of a list that is passed over. -/
def ListEnd.skip : ListEnd → Except Fault Unit
  | .trailingComma => .error (.malformed .expectedValue)
  | finish => finish.read

/-- The end of a list for one who has all items that may be in it. -/
def ListEnd.close : ListEnd → Except Fault Unit
  | .junk => .error (.malformed .trailingCharacters)
  | finish => finish.read

def ObjectEnd.read : ObjectEnd → Except Fault Unit
  | .closed => .ok ()
  | .cutOff => .error (.cutOff .object)
  | .cutOffAfterComma => .error (.cutOff .value)
  | .junk => .error (.malformed .expectedCommaOrObjectEnd)
  | .trailingComma => .error (.malformed .trailingComma)
  | .broken => .error (.malformed .keyNotString)

def ObjectEnd.skip : ObjectEnd → Except Fault Unit
  | .cutOffAfterComma => .error (.cutOff .object)
  | .trailingComma => .error (.malformed .keyNotString)
  | finish => finish.read

def Literal.toJson : Literal → Json
  | .null => .null
  | .bool b => .bool b
  | .num n => .num n

namespace Node

mutual

def read (source : Source) : Node → Except Fault Json
  | .literal value => value.read.map Literal.toJson
  | .text value => value.read.map .str
  | .arr items finish => do
    let items ← readItems (← source.enter) items
    finish.read
    return .arr items
  | .obj fields finish => do
    let fields ← readFields (← source.enter) fields
    finish.read
    return ofFields fields
  | .fault reason => .error reason

def readItems (source : Source) : List Node → Except Fault (List Json)
  | [] => .ok []
  | item :: items => return (← item.read source) :: (← readItems source items)

def readFields (source : Source) : List (Key × Node) → Except Fault (List (String × Json))
  | [] => .ok []
  | (key, node) :: fields =>
    return (← key.read, ← node.read source) :: (← readFields source fields)

end

mutual

/-- The faults of a tree that nobody needs the value of. -/
def skip : Node → Except Fault Unit
  | .literal value => value.skip
  | .text value => value.skip
  | .arr items finish => do
    skipItems items
    finish.skip
  | .obj fields finish => do
    skipFields fields
    finish.skip
  | .fault reason => .error reason

def skipItems : List Node → Except Fault Unit
  | [] => .ok ()
  | item :: items => do
    item.skip
    skipItems items

def skipFields : List (Key × Node) → Except Fault Unit
  | [] => .ok ()
  | (key, node) :: fields => do
    key.skip
    node.skip
    skipFields fields

end

end Node

def Document.decode (read : Source → Node → Except Fault α) (d : Document) : Except Fault α := do
  let value ← read .wholeText d.root
  if d.trailing then throw (.malformed .trailingCharacters)
  return value

def decodeText (read : Source → Node → Except Fault α) (text : String) : Except Fault α :=
  (Document.ofText text).decode read

def decodeValue (read : Source → Node → Except Fault α) (value : Json) : Except Fault α :=
  read .value (.ofJson value)

def parse (text : String) : Except Fault Json :=
  decodeText Node.read text

end DataGrid.Json
