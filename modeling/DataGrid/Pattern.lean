import DataGrid.Pattern.Automaton

namespace DataGrid

namespace Pattern

open Automaton

/-- A percent sign stands for any run of characters, an underscore for any one character, and every
other character for itself up to case. -/
inductive Piece where
  | run
  | one
  | char (folded : Char)
deriving DecidableEq

def Piece.ofChar (c : Char) : Piece :=
  if c = '%' then .run else if c = '_' then .one else .char (Text.foldCase c)

def pieces (pattern : String) : List Piece :=
  pattern.toList.map Piece.ofChar

/-- The bytes that a piece takes up in an automaton. A run is a fork to any character and back, and
a character without another case is read byte by byte. -/
def Piece.size (reading : Reading) : Piece → Nat
  | .run => stateSize + 2 * forkSize + anySize reading
  | .one => anySize reading
  | .char folded =>
    match Text.foldClass folded with
    | [c] => (encoding c).length * stateSize
    | cs => classSize reading (routesOf cs)

def isBuilt (pieces : List Piece) (reading : Reading) : Bool :=
  pieces.foldl (fun total piece => total + piece.size reading) (frameSize reading) ≤ maxSize

def compiles (pieces : List Piece) : Bool :=
  isBuilt pieces .forward && isBuilt pieces .backward

/-- From some place in the list on, all are true. -/
def onceTrue (seen : Bool) : List Bool → List Bool
  | [] => []
  | b :: bs => (seen || b) :: onceTrue (seen || b) bs

/-- The positions of a text that a matched start of a pattern may reach, when one more piece is
matched. Position 0 is before the first character. -/
def advance (text : List Char) (reached : List Bool) : Piece → List Bool
  | .run => onceTrue false reached
  | .one => false :: text.zipWith (fun _ r => r) reached
  | .char folded => false :: text.zipWith (fun c r => r && c == folded) reached

def startOnly (text : List Char) : List Bool :=
  true :: text.map fun _ => false

/-- Whether the pieces match a whole text whose characters are folded already. -/
def fits (pieces : List Piece) (text : List Char) : Bool :=
  (pieces.foldl (advance text) (startOnly text)).getLast?.getD false

end Pattern

/-- A pattern without its automata matches nothing. -/
def Pattern.isMatch (pattern text : String) : Bool :=
  let pieces := Pattern.pieces pattern
  Pattern.compiles pieces && Pattern.fits pieces (text.toList.map Text.foldCase)

end DataGrid
