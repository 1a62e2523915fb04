import DataGrid.Proofs.Sql.Alike
import DataGrid.Proofs.Sql.Placeholder
import DataGrid.Proofs.Sql.Statement

namespace DataGrid.Sql

/-- The text of a statement has a placeholder for each of the values `vs`, which are its values. -/
structure Statement.Takes (d : Dialect) (s : Statement) (vs : List Param) : Prop where
  values : s.values = vs
  placeholders : placeholders d s.sql = (List.range' 1 vs.length).map d.placeholder

theorem takes_statement (d : Dialect) {ps : List Piece} (separated : Separated ps) :
    (statement d ps).Takes d (values ps) :=
  ⟨rfl, placeholders_statement d separated⟩

theorem values_boundPart (words : String) (bound : Option Nat) :
    values (boundPart words bound) = bound.toList.map .bound := by
  cases bound <;> rfl

theorem values_selectPage (table : String) (q : Query) :
    values (selectPage table q) =
      (q.clause.predicates.flatMap fun p => values (predicate p)) ++
        q.limit.toList.map .bound ++ q.offset.toList.map .bound := by
  rw [selectPage, values_text, values_ident, values_append, values_append, values_append,
    values_wherePart, values_orderPart, List.append_nil, values_boundPart, values_boundPart]

theorem values_selectCount (table : String) (q : Query) :
    values (selectCount table q) = q.clause.predicates.flatMap fun p => values (predicate p) := by
  rw [selectCount, values_text, values_ident, values_wherePart]

theorem outline_boundPart (words : String) {bound bound' : Option Nat}
    (h : bound.isSome = bound'.isSome) :
    outline (boundPart words bound) = outline (boundPart words bound') := by
  cases bound <;> cases bound' <;> first | rfl | cases h

theorem outline_wherePart {w w' : Where} (alike : Clause.AlikeAll w w')
    (hw : ∀ p ∈ w.predicates, ∃ vs, Carries p vs)
    (hw' : ∀ p ∈ w'.predicates, ∃ vs, Carries p vs) :
    outline (wherePart w) = outline (wherePart w') := by
  have conditions : Option.Rel Condition.Alike (Condition.ofWhere? w) (Condition.ofWhere? w') := by
    rw [Condition.ofWhere?_eq_fold, Condition.ofWhere?_eq_fold]
    exact foldFrom_alike alike hw hw' .none
  unfold wherePart
  generalize Condition.ofWhere? w = c at conditions
  generalize Condition.ofWhere? w' = c' at conditions
  cases conditions with
  | none => rfl
  | some h => exact congrArg (some " WHERE " :: ·) h.outline_pieces

theorem outline_selectPage (table : String) {q r : Query} (alike : q.Alike r)
    (hq : ∀ p ∈ q.clause.predicates, ∃ vs, Carries p vs)
    (hr : ∀ p ∈ r.clause.predicates, ∃ vs, Carries p vs) :
    outline (selectPage table q) = outline (selectPage table r) := by
  have parts (q : Query) : selectPage table q =
      [.text "SELECT * FROM ", .ident table] ++ wherePart q.clause ++ orderPart q.orders ++
        boundPart " LIMIT " q.limit ++ boundPart " OFFSET " q.offset := by
    simp only [selectPage, List.cons_append, List.nil_append, List.append_assoc]
  rw [parts, parts]
  simp only [outline_append]
  rw [outline_wherePart alike.clause hq hr, alike.orders, outline_boundPart _ alike.limit,
    outline_boundPart _ alike.offset]

theorem outline_selectCount (table : String) {q r : Query} (alike : q.Alike r)
    (hq : ∀ p ∈ q.clause.predicates, ∃ vs, Carries p vs)
    (hr : ∀ p ∈ r.clause.predicates, ∃ vs, Carries p vs) :
    outline (selectCount table q) = outline (selectCount table r) :=
  congrArg (some "SELECT COUNT(*) FROM " :: some (ident table) :: ·)
    (outline_wherePart alike.clause hq hr)

/-- The predicates of both queries of a request come from its filter. -/
theorem carries_of_prepare {options : Options} {request : Request} {prepared : Prepared}
    (ready : prepare options request = .ok prepared) :
    (∀ p ∈ prepared.page.clause.predicates, Carries p (values (predicate p))) ∧
      ∀ count, prepared.count = some count → count.clause = prepared.page.clause := by
  obtain ⟨w, kept, hpage, hcount⟩ := queries_of_prepare ready
  have carried := carries_of_filtered kept
  rw [hpage]
  refine ⟨carried, fun count h => ?_⟩
  rw [hcount] at h
  split at h
  · cases h
    rfl
  · cases h

/-- Page and count of a request have the values of their predicates, from left to right, and the
page has its bounds after them. A predicate carries its scalar, its pattern, the items of its list,
two constants for a list without items, and nothing for null. The text of a statement has a
placeholder for each value, numbered in their order where the dialect numbers them; and two requests
whose queries differ in operands and bounds only have statements with one and the same text. -/
theorem operands_stay_out_of_text {options : Options} {request : Request} {prepared : Prepared}
    (ready : prepare options request = .ok prepared) (d : Dialect) (table : String) :
    (∀ p ∈ prepared.page.clause.predicates, Carries p (values (predicate p))) ∧
    (statement d (selectPage table prepared.page)).Takes d
      ((prepared.page.clause.predicates.flatMap fun p => values (predicate p)) ++
        prepared.page.limit.toList.map .bound ++ prepared.page.offset.toList.map .bound) ∧
    (∀ count, prepared.count = some count →
      count.clause = prepared.page.clause ∧
      (statement d (selectCount table count)).Takes d
        (count.clause.predicates.flatMap fun p => values (predicate p))) ∧
    ∀ (options' : Options) (request' : Request) (prepared' : Prepared),
      prepare options' request' = .ok prepared' →
        (prepared.page.Alike prepared'.page →
          (statement d (selectPage table prepared.page)).sql =
            (statement d (selectPage table prepared'.page)).sql) ∧
        ∀ count count', prepared.count = some count → prepared'.count = some count' →
          count.Alike count' →
            (statement d (selectCount table count)).sql =
              (statement d (selectCount table count')).sql := by
  obtain ⟨carried, same⟩ := carries_of_prepare ready
  refine ⟨carried, ?_, fun count hcount => ⟨same count hcount, ?_⟩, ?_⟩
  · rw [← values_selectPage table]
    exact takes_statement d (separated_selectPage table _)
  · rw [← values_selectCount table]
    exact takes_statement d (separated_selectCount table count)
  · intro options' request' prepared' ready'
    obtain ⟨carried', same'⟩ := carries_of_prepare ready'
    have some_values : ∀ p ∈ prepared.page.clause.predicates, ∃ vs, Carries p vs :=
      fun p hp => ⟨_, carried p hp⟩
    have some_values' : ∀ p ∈ prepared'.page.clause.predicates, ∃ vs, Carries p vs :=
      fun p hp => ⟨_, carried' p hp⟩
    refine ⟨fun alike => ?_, fun count count' hcount hcount' alike => ?_⟩
    · exact sql_eq_of_outline d (outline_selectPage table alike some_values some_values')
    · rw [← same count hcount] at some_values
      rw [← same' count' hcount'] at some_values'
      exact sql_eq_of_outline d (outline_selectCount table alike some_values some_values')

/-- A request with a pattern, a list, a list without items, null, a scalar and a window. -/
def search (part : String) (ages : List Operand) (least : Int64) (most : Nat) : Request where
  filter := some (.group .or
    [.leaf ⟨"name", "contains", .str part⟩, .leaf ⟨"age", "equal", .list ages⟩,
      .group .and [.leaf ⟨"left", "equal", .null⟩, .leaf ⟨"team", "notEqual", .list []⟩,
        .leaf ⟨"age", "greaterThan", .int least⟩]])
  sort := none
  skip := none
  take := some (.ofNat most)
  requireTotalCount := true

def searched (part : String) (ages : List Operand) (least : Int64) (most : Nat) : Query where
  clause := [(.and, .group
    [(.or, .test ⟨"name", .like, .str ("%" ++ part ++ "%")⟩),
      (.or, .test ⟨"age", .equal, .list ages⟩),
      (.or, .group [(.and, .test ⟨"left", .equal, .null⟩),
        (.and, .test ⟨"team", .notEqual, .list []⟩),
        (.and, .test ⟨"age", .greater, .int least⟩)])])]
  offset := some 0
  limit := some most

theorem text_of_search :
    ∃ prepared prepared',
      prepare {} (search "a" [.int 20, .int 35] 3 5) = .ok prepared ∧
      prepare {} (search "'; --" [.str "$9", .bool true] 7 2) = .ok prepared' ∧
      (statement .postgres (selectPage "people" prepared.page)).sql =
        (statement .postgres (selectPage "people" prepared'.page)).sql := by
  obtain ⟨prepared, ready, hpage⟩ :
      ∃ prepared, prepare {} (search "a" [.int 20, .int 35] 3 5) = .ok prepared ∧
        prepared.page = searched "a" [.int 20, .int 35] 3 5 :=
    ⟨_, rfl, rfl⟩
  obtain ⟨prepared', ready', hpage'⟩ :
      ∃ prepared, prepare {} (search "'; --" [.str "$9", .bool true] 7 2) = .ok prepared ∧
        prepared.page = searched "'; --" [.str "$9", .bool true] 7 2 :=
    ⟨_, rfl, rfl⟩
  have alike : prepared.page.Alike prepared'.page := by
    rw [hpage, hpage']
    refine ⟨.cons (.group ?_) .nil, rfl, rfl, rfl⟩
    refine .cons (.test ⟨rfl, rfl, .scalars rfl rfl⟩) <|
      .cons (.test ⟨rfl, rfl, .lists (List.cons_ne_nil _ _) rfl⟩) <| .cons (.group ?_) .nil
    exact .cons (.test ⟨rfl, rfl, .same _⟩) <| .cons (.test ⟨rfl, rfl, .same _⟩) <|
      .cons (.test ⟨rfl, rfl, .scalars rfl rfl⟩) .nil
  have laws := operands_stay_out_of_text ready .postgres "people"
  exact ⟨prepared, prepared', ready, ready', (laws.2.2.2 {} _ prepared' ready').1 alike⟩

end DataGrid.Sql
