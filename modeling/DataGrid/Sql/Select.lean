import DataGrid.Query
import DataGrid.Sql.Condition

namespace DataGrid.Sql

def wherePart (w : Where) : List Piece :=
  match Condition.ofWhere? w with
  | none => []
  | some c => .text " WHERE " :: c.pieces

def Direction.word : Direction → String
  | .asc => " ASC"
  | .desc => " DESC"

def orderPieces : List SortKey → List Piece
  | [] => []
  | [key] => [.ident key.field, .text (Direction.word key.direction)]
  | key :: keys =>
    .ident key.field :: .text (Direction.word key.direction) :: .text ", " :: orderPieces keys

def orderPart : List SortKey → List Piece
  | [] => []
  | keys => .text " ORDER BY " :: orderPieces keys

def boundPart (words : String) : Option Nat → List Piece
  | none => []
  | some n => [.text words, .param (.bound n)]

def selectPage (table : String) (q : Query) : List Piece :=
  .text "SELECT * FROM " :: .ident table ::
    (wherePart q.clause ++ orderPart q.orders ++ boundPart " LIMIT " q.limit ++
      boundPart " OFFSET " q.offset)

/-- The number of rows that a query keeps; order and window play no part. -/
def selectCount (table : String) (q : Query) : List Piece :=
  .text "SELECT COUNT(*) FROM " :: .ident table :: wherePart q.clause

end DataGrid.Sql
