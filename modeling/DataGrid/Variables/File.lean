import DataGrid.Variables.Line
import DataGrid.Variables.Value

namespace DataGrid

abbrev Variables := List (String × String)

namespace Variables

def get? (vars : Variables) (name : String) : Option String :=
  vars.lookup name

def getD (vars : Variables) (name : String) : String :=
  (vars.get? name).getD ""

def setNew (vars : Variables) (name value : String) : Variables :=
  if (vars.get? name).isSome then vars else vars ++ [(name, value)]

def isNameStart (c : Char) : Bool :=
  c.isAlpha || c == '_'

def isNameChar (c : Char) : Bool :=
  c.isAlphanum || c == '_' || c == '.'

def readName? (s : List Char) : Option (String × List Char) :=
  if s.head?.any isNameStart then
    some (String.ofList (s.takeWhile isNameChar), s.dropWhile isNameChar)
  else none

def skipBlanks (s : List Char) : List Char :=
  s.dropWhile Text.isBlank

def readEqual? (s : List Char) : Option (List Char) :=
  match skipBlanks s with
  | '=' :: r => some r
  | _ => none

/-- The name that a line sets and what stands after its equals sign. The word `export` may stand
before the name, and is a name itself. -/
def readAssignment? (s : List Char) : Option (String × List Char) :=
  match readName? s with
  | none => none
  | some (name, rest) =>
    match readEqual? rest with
    | some value => some (name, value)
    | none =>
      if name = "export" then
        match readName? (skipBlanks rest) with
        | none => none
        | some (name, rest) => (readEqual? rest).map (name, ·)
      else none

def isBlankOrComment (s : List Char) : Bool :=
  s.isEmpty || s.head? == some '#'

def readLine? (vars : Variables) (line : List Char) : Option Variables :=
  let line := Text.trimChars line
  if isBlankOrComment line then some vars
  else
    match readAssignment? line with
    | none => none
    | some (name, rest) =>
      let rest := skipBlanks rest
      if isBlankOrComment rest then some (vars.setNew name "")
      else (readValue vars.getD .plain .nothing [] rest).map (vars.setNew name)

def readLines (vars : Variables) : List (Option (List Char)) → Variables
  | [] => vars
  | none :: _ => vars
  | some line :: lines =>
    match vars.readLine? line with
    | none => vars
    | some vars => vars.readLines lines

/-- A byte order mark before the text counts for nothing. -/
def dropMark : List Char → List Char
  | '\ufeff' :: s => s
  | s => s

/-- A variable that is set already keeps its value, and reading stops at the first line that is not
well formed. -/
def setFrom (vars : Variables) (text : String) : Variables :=
  vars.readLines (lines (dropMark text.toList))

end Variables

end DataGrid
