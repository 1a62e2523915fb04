import DataGrid.Text.Basic

namespace DataGrid.Variables

inductive Quoting where
  | plain
  | afterBlank
  | escape
  | single
  | singleEscape
  | double
  | doubleEscape
deriving DecidableEq

/-- A quote opens, or a character is escaped, outside of quotes. -/
def Quoting.opened (c : Char) : Quoting :=
  if c = '\\' then .escape
  else if c = '"' then .double
  else if c = '\x27' then .single
  else .plain

def Quoting.next (q : Quoting) (c : Char) : Quoting :=
  match q with
  | .plain => if Text.isBlank c && c != '\n' && c != '\r' then .afterBlank else opened c
  | .afterBlank => opened c
  | .escape => .plain
  | .single => if c = '\\' then .singleEscape else if c = '\x27' then .plain else .single
  | .singleEscape => .single
  | .double => if c = '\\' then .doubleEscape else if c = '"' then .plain else .double
  | .doubleEscape => .double

/-- How one line of text leaves the quotes, or what stands before the comment that ends it. -/
def scan (q : Quoting) (read : List Char) : List Char → List Char ⊕ Quoting
  | [] => .inr q
  | c :: s =>
    if q = .afterBlank ∧ c = '#' then .inl read.reverse
    else scan (q.next c) (c :: read) s

def physicalLines : List Char → List (List Char)
  | [] => []
  | '\n' :: s => ['\n'] :: physicalLines s
  | c :: s =>
    match physicalLines s with
    | [] => [[c]]
    | line :: lines => (c :: line) :: lines

def dropLineEnd (line : List Char) : List Char :=
  match line.reverse with
  | '\n' :: '\r' :: r => r.reverse
  | '\n' :: r => r.reverse
  | _ => line

def isComment (line : List Char) : Bool :=
  (line.dropWhile Text.isBlank).head? == some '#'

/-- Lines put together from the lines of the text; none stands for one that the text ends in. -/
def joinLines (q : Quoting) (read : List Char) : List (List Char) → List (Option (List Char))
  | [] => if q = .plain then [] else [none]
  | line :: lines =>
    if isComment (read ++ line) then some [] :: joinLines .plain [] lines
    else
      match scan q [] line with
      | .inl before => some (read ++ before) :: joinLines .plain [] lines
      | .inr .plain => some (dropLineEnd (read ++ line)) :: joinLines .plain [] lines
      | .inr q => joinLines q (read ++ line) lines

def lines (text : List Char) : List (Option (List Char)) :=
  joinLines .plain [] (physicalLines text)

end DataGrid.Variables
