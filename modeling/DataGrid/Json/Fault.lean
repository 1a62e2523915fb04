import DataGrid.Json.Printer
import DataGrid.Text.Quoted

namespace DataGrid.Json

inductive CutOff where
  | value
  | list
  | object
  | string
deriving DecidableEq

inductive Malformation where
  | expectedValue
  | expectedWord
  | expectedColon
  | expectedCommaOrListEnd
  | expectedCommaOrObjectEnd
  | keyNotString
  | trailingComma
  | trailingCharacters
  | invalidNumber
  | numberOutOfRange
  | invalidEscape
  | loneSurrogate
  | unpairedSurrogate
  | controlCharacter
  | nestedTooDeep
deriving DecidableEq

inductive Found where
  | null
  | bool (value : Bool)
  | int (value : Integer)
  | real (value : Double.Finite)
  | str (value : String)
  | list
  | object
deriving DecidableEq

inductive Mismatch where
  | wrongType (found : Found) (expected : String)
  | negative (found : Integer) (expected : String)
  | notSingleKey
  | missingField (name : String)
  | duplicateField (name : String)
  | unknownVariant (name : String) (known : List String)
  | wrongLength (length : Nat) (expected : String)
  | noVariant (type : String)
deriving DecidableEq

inductive Fault where
  | cutOff (inside : CutOff)
  | malformed (reason : Malformation)
  | mismatch (reason : Mismatch)
deriving DecidableEq

def CutOff.message : CutOff → String
  | .value => "EOF while parsing a value"
  | .list => "EOF while parsing a list"
  | .object => "EOF while parsing an object"
  | .string => "EOF while parsing a string"

def Malformation.message : Malformation → String
  | .expectedValue => "expected value"
  | .expectedWord => "expected ident"
  | .expectedColon => "expected `:`"
  | .expectedCommaOrListEnd => "expected `,` or `]`"
  | .expectedCommaOrObjectEnd => "expected `,` or `\x7d`"
  | .keyNotString => "key must be a string"
  | .trailingComma => "trailing comma"
  | .trailingCharacters => "trailing characters"
  | .invalidNumber => "invalid number"
  | .numberOutOfRange => "number out of range"
  | .invalidEscape => "invalid escape"
  | .loneSurrogate => "lone leading surrogate in hex escape"
  | .unpairedSurrogate => "unexpected end of hex escape"
  | .controlCharacter => "control character (\\u0000-\\u001F) found while parsing a string"
  | .nestedTooDeep => "recursion limit exceeded"

def Found.text : Found → String
  | .null => "null"
  | .bool b => "boolean `" ++ String.ofList (writeBool b) ++ "`"
  | .int i => "integer `" ++ String.ofList (writeInt i.val) ++ "`"
  | .real x => "floating point `" ++ x.rowText ++ "`"
  | .str s => "string " ++ Text.quoted s
  | .list => "sequence"
  | .object => "map"

def named (name : String) : String :=
  "`" ++ name ++ "`"

def Mismatch.message : Mismatch → String
  | .wrongType found expected => "invalid type: " ++ found.text ++ ", expected " ++ expected
  | .negative found expected =>
    "invalid value: " ++ (Found.int found).text ++ ", expected " ++ expected
  | .notSingleKey => "invalid value: map, expected map with a single key"
  | .missingField name => "missing field " ++ named name
  | .duplicateField name => "duplicate field " ++ named name
  | .unknownVariant name known =>
    "unknown variant " ++ named name ++ ", expected " ++ " or ".intercalate (known.map named)
  | .wrongLength length expected =>
    "invalid length " ++ toString length ++ ", expected " ++ expected
  | .noVariant type => "data did not match any variant of untagged enum " ++ type

def Fault.message : Fault → String
  | .cutOff inside => inside.message
  | .malformed reason => reason.message
  | .mismatch reason => reason.message

/-- Whether a text ends too soon, breaks the rules of JSON, or holds the wrong value. -/
inductive Fault.Category where
  | eof
  | grammar
  | data
deriving DecidableEq

def Fault.category : Fault → Category
  | .cutOff _ => .eof
  | .malformed _ => .grammar
  | .mismatch _ => .data

end DataGrid.Json
