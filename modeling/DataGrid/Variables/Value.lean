import DataGrid.Text.Alphanumeric

namespace DataGrid.Variables

inductive Mode where
  | plain
  | single
  | double
  /-- After a blank that is not quoted only blanks and a comment may follow. -/
  | over
deriving DecidableEq

/-- What the next character may belong to: an escape, or a name, held last character first. -/
inductive Pending where
  | nothing
  | escape
  | name (chars : List Char)
  | bracedName (chars : List Char)
deriving DecidableEq

def escaped? (c : Char) : Option Char :=
  if c = 'n' then some '\n'
  else if ['\\', '\x27', '"', '$', ' '].contains c then some c
  else none

def nameOf (chars : List Char) : String :=
  String.ofList chars.reverse

/-- The rest of a value, with the characters read so far last first; none if it is not well
formed. -/
def readValue (lookup : String → String) (mode : Mode) (pending : Pending) (read : List Char) :
    List Char → Option String
  | [] =>
    if mode = .single ∨ mode = .double then none
    else
      match pending with
      | .bracedName _ => none
      | .name chars => some (String.ofList read.reverse ++ lookup (nameOf chars))
      | _ => some (String.ofList read.reverse)
  | c :: s =>
    match mode, pending with
    | .over, _ =>
      if c = ' ' ∨ c = '\t' then readValue lookup .over .nothing read s
      else if c = '#' then some (String.ofList read.reverse)
      else none
    | _, .escape =>
      match escaped? c with
      | some e => readValue lookup mode .nothing (e :: read) s
      | none => none
    | .single, _ =>
      if c = '\x27' then readValue lookup .plain .nothing read s
      else readValue lookup .single .nothing (c :: read) s
    | _, .name chars =>
      if Text.isAlphanumeric c then readValue lookup mode (.name (c :: chars)) read s
      else if c = '\x7b' ∧ chars = [] then readValue lookup mode (.bracedName []) read s
      else
        let read := (lookup (nameOf chars)).toList.reverse ++ read
        if c = '$' then readValue lookup mode (.name []) read s
        else readValue lookup mode .nothing (c :: read) s
    | _, .bracedName chars =>
      if c = '\x7d' then
        readValue lookup mode .nothing ((lookup (nameOf chars)).toList.reverse ++ read) s
      else readValue lookup mode (.bracedName (c :: chars)) read s
    | .double, .nothing =>
      if c = '$' then readValue lookup .double (.name []) read s
      else if c = '"' then readValue lookup .plain .nothing read s
      else if c = '\\' then readValue lookup .double .escape read s
      else readValue lookup .double .nothing (c :: read) s
    | .plain, .nothing =>
      if c = '$' then readValue lookup .plain (.name []) read s
      else if c = '\x27' then readValue lookup .single .nothing read s
      else if c = '"' then readValue lookup .double .nothing read s
      else if c = '\\' then readValue lookup .plain .escape read s
      else if c = ' ' ∨ c = '\t' then readValue lookup .over .nothing read s
      else readValue lookup .plain .nothing (c :: read) s

end DataGrid.Variables
