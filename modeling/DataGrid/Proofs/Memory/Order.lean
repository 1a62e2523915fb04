import DataGrid.Memory.Order

namespace DataGrid.Memory

theorem insertRow_perm (keys : List SortKey) (row : Json) (sorted : List Json) :
    (insertRow keys row sorted).Perm (row :: sorted) := by
  induction sorted with
  | nil => rfl
  | cons last before ih =>
    rw [insertRow]
    split
    · exact (ih.cons last).trans (.swap row last before)
    · rfl

theorem foldl_insertRow_perm (keys : List SortKey) (rows sorted : List Json) :
    (rows.foldl (fun sorted row => insertRow keys row sorted) sorted).Perm (rows ++ sorted) := by
  induction rows generalizing sorted with
  | nil => rfl
  | cons row rows ih =>
    rw [List.foldl_cons]
    refine (ih _).trans ?_
    refine ((insertRow_perm keys row sorted).append_left rows).trans ?_
    exact List.perm_middle

theorem sortRows_perm (keys : List SortKey) (rows : List Json) :
    (sortRows keys rows).Perm rows := by
  unfold sortRows
  refine (List.reverse_perm _).trans ?_
  simpa only [List.append_nil] using foldl_insertRow_perm keys rows []

theorem insertRow_nil (row : Json) (sorted : List Json) :
    insertRow [] row sorted = row :: sorted := by
  cases sorted <;> rfl

theorem sortRows_nil (rows : List Json) : sortRows [] rows = rows := by
  -- without keys every row goes in first, and the list of sorted rows is kept backwards
  have h (sorted : List Json) :
      rows.foldl (fun sorted row => insertRow [] row sorted) sorted = rows.reverse ++ sorted := by
    simp only [insertRow_nil, List.foldl_flip_cons_eq_append, List.map_id']
  rw [sortRows, h, List.append_nil, List.reverse_reverse]

end DataGrid.Memory
