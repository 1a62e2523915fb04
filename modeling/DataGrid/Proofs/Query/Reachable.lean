import DataGrid.Proofs.Filter.Compile
import DataGrid.Query.Program

namespace DataGrid.Query

def Reachable (q : Query) : Prop :=
  ∃ steps : List Step, q = run steps {}

theorem sortBy_eq (q : Query) (keys : List SortKey) :
    q.sortBy keys = { q with orders := q.orders ++ keys } := by
  unfold sortBy
  induction keys generalizing q with
  | nil => rw [List.foldl_nil, List.append_nil]
  | cons key keys ih =>
    rw [List.foldl_cons, ih, orderBy, List.append_assoc]
    rfl

theorem clause_window (q : Query) (w : Window) : (q.window w).clause = q.clause := by
  unfold Query.window
  cases w.take <;> rfl

/-- A filter is put at the end of the clause as one group, or the step changes nothing. -/
theorem step_filter (joiner : Joiner) (tree : Tree Condition) (q : Query) :
    step (.filter joiner tree) q =
      match tree.mapM Filter.resolve with
      | .ok resolved =>
        { q with clause := q.clause.pushGroup joiner (Filter.rootEntries joiner resolved) }
      | .error _ => q := by
  rw [step]
  cases resolves : tree.mapM Filter.resolve with
  | error e => rw [Filter.compile_of_error resolves]
  | ok resolved => rw [Filter.compile_of_ok resolves, Filter.addRoot_eq]

mutual

theorem solid_step : (s : Step) → {q : Query} → q.clause.Solid → (step s q).clause.Solid
  | .test joiner predicate, _, solid => solid.push joiner predicate
  | .group joiner steps, q, solid => by
    -- the steps of a group start from a clause of their own
    have inner : (run steps { q with clause := [] }).clause.Solid := solid_run steps trivial
    exact solid.pushGroup joiner inner
  | .orderBy _, _, solid => solid
  | .skip _, _, solid => solid
  | .take _, _, solid => solid
  | .filter joiner tree, q, solid => by
    rw [step_filter]
    split
    · next resolved _ => exact solid.pushGroup joiner (Filter.solid_rootEntries joiner resolved)
    · exact solid
  | .sort keys, q, solid => by
    rw [step, sortBy_eq]
    exact solid
  | .window none, _, solid => solid
  | .window (some w), q, solid => by
    rw [step, clause_window]
    exact solid
  | .rejected _, _, solid => solid

theorem solid_run : (steps : List Step) → {q : Query} → q.clause.Solid →
    (run steps q).clause.Solid
  | [], _, solid => solid
  | s :: steps, _, solid => solid_run steps (solid_step s solid)

end

theorem Reachable.solid {q : Query} (h : q.Reachable) : q.clause.Solid := by
  obtain ⟨steps, rfl⟩ := h
  exact solid_run steps trivial

end DataGrid.Query
