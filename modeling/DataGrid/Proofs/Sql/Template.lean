import DataGrid.Sql.Text

namespace DataGrid.Sql

/-- The text of pieces of which the first placeholder takes the number `index`. -/
def template (d : Dialect) (index : Nat) (ps : List Piece) : String :=
  String.join (templateFrom d index ps)

theorem statement_eq (d : Dialect) (ps : List Piece) :
    statement d ps = ⟨template d 1 ps, values ps⟩ :=
  rfl

theorem values_text (words : String) (ps : List Piece) : values (.text words :: ps) = values ps :=
  rfl

theorem values_ident (name : String) (ps : List Piece) : values (.ident name :: ps) = values ps :=
  rfl

theorem values_append (ps qs : List Piece) : values (ps ++ qs) = values ps ++ values qs :=
  List.filterMap_append

theorem templateFrom_append (d : Dialect) (index : Nat) (ps qs : List Piece) :
    templateFrom d index (ps ++ qs) =
      templateFrom d index ps ++ templateFrom d (index + (values ps).length) qs := by
  induction ps generalizing index with
  | nil => rfl
  | cons p ps ih =>
    cases p with
    | text words => exact congrArg (words :: ·) (ih index)
    | ident name => exact congrArg (ident name :: ·) (ih index)
    | param value =>
      have next : index + (values (.param value :: ps)).length =
          index + 1 + (values ps).length := Nat.add_right_comm index _ 1
      rw [List.cons_append, templateFrom, templateFrom, ih, next, List.cons_append]

theorem template_append (d : Dialect) (index : Nat) (ps qs : List Piece) :
    template d index (ps ++ qs) =
      template d index ps ++ template d (index + (values ps).length) qs := by
  rw [template, templateFrom_append, String.join_append]
  rfl

theorem template_text (d : Dialect) (index : Nat) (words : String) (ps : List Piece) :
    template d index (.text words :: ps) = words ++ template d index ps :=
  String.join_cons

theorem template_ident (d : Dialect) (index : Nat) (name : String) (ps : List Piece) :
    template d index (.ident name :: ps) = ident name ++ template d index ps :=
  String.join_cons

theorem template_param (d : Dialect) (index : Nat) (value : Param) (ps : List Piece) :
    template d index (.param value :: ps) = d.placeholder index ++ template d (index + 1) ps :=
  String.join_cons

theorem inline_append (d : Dialect) (ps qs : List Piece) :
    inline d (ps ++ qs) = inline d ps ++ inline d qs := by
  rw [inline, List.map_append, String.join_append]
  rfl

theorem inline_cons (d : Dialect) (p : Piece) (ps : List Piece) :
    inline d (p :: ps) = p.inline d ++ inline d ps :=
  String.join_cons

theorem template_eq_inline (d : Dialect) (index : Nat) {ps : List Piece} (h : values ps = []) :
    template d index ps = inline d ps := by
  induction ps with
  | nil => rfl
  | cons p ps ih =>
    cases p with
    | text words => rw [template_text, inline_cons, ih h, Piece.inline]
    | ident name => rw [template_ident, inline_cons, ih h, Piece.inline]
    | param value => cases h

end DataGrid.Sql
