import DataGrid.Proofs.Filter.Compile
import DataGrid.Query.Building

namespace DataGrid

namespace Building

/-- A query as a source holds it, by how the source views the number of rows to skip. -/
def ofQuery (view : Option Nat → ω) (q : Query) : Building ω where
  builder := ⟨q.clause⟩
  orders := q.orders
  offset := view q.offset
  limit := q.limit

section
variable {held : Nat → ω} {view : Option Nat → ω}

/-- The clause put aside is the one that the group is added to in the end. -/
theorem addGroup_ofQuery {body : Query → Query} {body' : Building ω → Building ω}
    (h : ∀ q, body' (ofQuery view q) = ofQuery view (body q)) (q : Query) (joiner : Joiner) :
    (ofQuery view q).addGroup joiner body' = ofQuery view (q.addGroup joiner body) := by
  have inner : body' (ofQuery view { q with clause := [] }) =
      ofQuery view (body { q with clause := [] }) := h _
  calc (ofQuery view q).addGroup joiner body'
      = { body' (ofQuery view { q with clause := [] }) with
          builder := (body' (ofQuery view { q with clause := [] })).builder.closed q.clause
            joiner } := rfl
    _ = ofQuery view (q.addGroup joiner body) := by rw [inner]; rfl

mutual

theorem addNode_ofQuery (joiner : Joiner) : (t : Tree Predicate) → (q : Query) →
    Filter.addNode joiner t (ofQuery view q) = ofQuery view (Filter.addNode joiner t q)
  | .leaf _, _ => rfl
  | .group own children, q => addGroup_ofQuery (addNodes_ofQuery own children) q joiner

theorem addNodes_ofQuery (joiner : Joiner) : (ts : List (Tree Predicate)) → (q : Query) →
    Filter.addNodes joiner ts (ofQuery view q) = ofQuery view (Filter.addNodes joiner ts q)
  | [], _ => rfl
  | t :: ts, q => by
    rw [Filter.addNodes, Filter.addNodes, addNode_ofQuery joiner t, addNodes_ofQuery joiner ts]

end

theorem addRoot_ofQuery (joiner : Joiner) (t : Tree Predicate) (q : Query) :
    Filter.addRoot joiner t (ofQuery view q) = ofQuery view (Filter.addRoot joiner t q) := by
  cases t with
  | leaf predicate => exact addGroup_ofQuery (addNode_ofQuery joiner (.leaf predicate)) q joiner
  | group own children => exact addGroup_ofQuery (addNodes_ofQuery own children) q joiner

theorem sortBy_ofQuery (keys : List SortKey) (q : Query) :
    (ofQuery view q).sortBy keys = ofQuery view (q.sortBy keys) := by
  unfold sortBy Query.sortBy
  induction keys generalizing q with
  | nil => rfl
  | cons key keys ih => exact ih (q.orderBy key)

theorem skip_ofQuery (agree : ∀ n, view (some n) = held n) (offset : Nat) (q : Query) :
    (ofQuery view q).skip held offset = ofQuery view (q.skip offset) := by
  rw [skip, ← agree]
  rfl

theorem window_ofQuery (agree : ∀ n, view (some n) = held n) (w : Window) (q : Query) :
    (ofQuery view q).window held w = ofQuery view (q.window w) := by
  unfold window Query.window
  rw [skip_ofQuery agree]
  cases w.take <;> rfl

mutual

theorem step_ofQuery (agree : ∀ n, view (some n) = held n) : (s : Query.Step) → (q : Query) →
    step held s (ofQuery view q) = ofQuery view (Query.step s q)
  | .test _ _, _ => rfl
  | .group joiner steps, q => by
    rw [step, Query.step]
    exact addGroup_ofQuery (run_ofQuery agree steps) q joiner
  | .orderBy _, _ => rfl
  | .skip offset, q => skip_ofQuery agree offset q
  | .take _, _ => rfl
  | .filter joiner tree, q => by
    rw [step, Query.step]
    cases resolves : tree.mapM Filter.resolve with
    | error e => rw [Filter.compile_of_error resolves, Filter.compile_of_error resolves]
    | ok resolved =>
      rw [Filter.compile_of_ok resolves, Filter.compile_of_ok resolves]
      exact addRoot_ofQuery joiner resolved q
  | .sort keys, q => sortBy_ofQuery keys q
  | .window none, _ => rfl
  | .window (some w), q => window_ofQuery agree w q
  | .rejected _, _ => rfl

theorem run_ofQuery (agree : ∀ n, view (some n) = held n) : (steps : List Query.Step) →
    (q : Query) → run held steps (ofQuery view q) = ofQuery view (Query.run steps q)
  | [], _ => rfl
  | s :: steps, q => by
    rw [run, Query.run, step_ofQuery agree s, run_ofQuery agree steps]

end

end

end Building

theorem Memory.building_eq (steps : List Query.Step) :
    building steps = .ofQuery (·.getD 0) (Query.run steps {}) :=
  @Building.run_ofQuery Nat id (·.getD 0) (fun _ => rfl) steps {}

theorem Sql.building_eq (steps : List Query.Step) :
    building steps = .ofQuery id (Query.run steps {}) :=
  @Building.run_ofQuery (Option Nat) some id (fun _ => rfl) steps {}

end DataGrid
