import DataGrid.Sql.Condition

namespace DataGrid.Sql

theorem membership_cons (field word : String) (emptyRight : Nat) (v : Param) (vs : List Param) :
    membership field word emptyRight (v :: vs) =
      [.ident field, .text (" " ++ word ++ " (")] ++ separatedParams (v :: vs) ++ [.text ")"] :=
  rfl

def enclosed (parens : Bool) (ps : List Piece) : List Piece :=
  if parens then .text "(" :: ps ++ [.text ")"] else ps

theorem enclosed_true (ps : List Piece) : enclosed true ps = [.text "("] ++ ps ++ [.text ")"] :=
  rfl

namespace Condition

theorem flatMap_pieces_enclosed (parens : Bool) (c : Condition) :
    (if parens then parenthesized c.tokens else c.tokens).flatMap Token.pieces =
      enclosed parens c.pieces := by
  cases parens with
  | false => rfl
  | true =>
    rw [if_pos rfl, enclosed, if_pos rfl, parenthesized, List.flatMap_append, List.flatMap_cons]
    rfl

theorem pieces_atom (p : Predicate) : (atom p).pieces = predicate p :=
  List.append_nil _

theorem pieces_join (joiner : Joiner) (left right : Condition) :
    (join joiner left right).pieces =
      enclosed (needsParens joiner left) left.pieces ++
        .text (joinWord joiner) :: enclosed right.isJoin right.pieces := by
  rw [pieces, tokens, List.flatMap_append, List.flatMap_cons, flatMap_pieces_enclosed,
    flatMap_pieces_enclosed]
  rfl

end Condition

end DataGrid.Sql
