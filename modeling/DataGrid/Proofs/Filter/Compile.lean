import DataGrid.Filter.Compile
import DataGrid.Proofs.Clause.Fold
import DataGrid.Proofs.Clause.Solid
import DataGrid.Proofs.Filter.Tree

namespace DataGrid

namespace Filter

mutual

/-- The entries of a node in a group with joiner `joiner`; a node without leaves has none. -/
def entries (joiner : Joiner) : Tree Predicate → Where
  | .leaf predicate => [(joiner, .test predicate)]
  | .group own children => Where.pushGroup [] joiner (entriesAll own children)

def entriesAll (joiner : Joiner) : List (Tree Predicate) → Where
  | [] => []
  | t :: ts => entries joiner t ++ entriesAll joiner ts

end

/-- The entries of the root's own group, which holds a bare comparison too. -/
def rootEntries (joiner : Joiner) : Tree Predicate → Where
  | .leaf predicate => [(joiner, .test predicate)]
  | .group own children => entriesAll own children

end Filter

/-- A body that only adds entries leaves them as one group of the clause around it. -/
theorem Query.addGroup_of_append {body : Query → Query} {entries : Where}
    (h : ∀ q : Query, body q = { q with clause := q.clause ++ entries }) (q : Query)
    (joiner : Joiner) :
    q.addGroup joiner body = { q with clause := q.clause.pushGroup joiner entries } := by
  unfold Query.addGroup
  rw [h]
  rfl

namespace Filter

section
variable {σ : Type} [Queryable σ] {joiner : Joiner} {tree : Tree Condition}

theorem compile_of_ok {resolved : Tree Predicate} (h : tree.mapM resolve = .ok resolved) (q : σ) :
    (compile joiner tree).run.run q = (.ok (), addRoot joiner resolved q) := by
  rw [compile, h]
  rfl

theorem compile_of_error {e : QueryError} (h : tree.mapM resolve = .error e) (q : σ) :
    (compile joiner tree).run.run q = (.error e, q) := by
  rw [compile, h]
  rfl

end

mutual

theorem addNode_eq (joiner : Joiner) : (t : Tree Predicate) → (q : Query) →
    addNode joiner t q = { q with clause := q.clause ++ entries joiner t }
  | .leaf _, _ => rfl
  | .group own children, q => by
    rw [entries, ← Where.pushGroup_eq_append]
    exact Query.addGroup_of_append (addNodes_eq own children) q joiner

theorem addNodes_eq (joiner : Joiner) : (ts : List (Tree Predicate)) → (q : Query) →
    addNodes joiner ts q = { q with clause := q.clause ++ entriesAll joiner ts }
  | [], q => by
    rw [addNodes, entriesAll, List.append_nil]
  | t :: ts, q => by
    rw [addNodes, addNode_eq joiner t, addNodes_eq joiner ts, entriesAll, List.append_assoc]

end

theorem addRoot_eq (joiner : Joiner) (t : Tree Predicate) (q : Query) :
    addRoot joiner t q = { q with clause := q.clause.pushGroup joiner (rootEntries joiner t) } := by
  cases t with
  | leaf predicate => exact Query.addGroup_of_append (addNode_eq joiner (.leaf predicate)) q joiner
  | group own children => exact Query.addGroup_of_append (addNodes_eq own children) q joiner

theorem joinNext_combine (joiner : Joiner) (a b : Option Bool) :
    joinNext Joiner.combine joiner a b = Tree.joinOutcome joiner a b := by
  cases a <;> cases b <;> rfl

mutual

theorem foldFrom_entries (test : Predicate → Bool) (joiner : Joiner) (before : Option Bool) :
    (t : Tree Predicate) → Clause.foldFrom test Joiner.combine before (entries joiner t) =
      Tree.joinOutcome joiner before (t.outcome test)
  | .leaf predicate => joinNext_combine joiner before (some (test predicate))
  | .group own children => by
    rw [entries, Where.foldFrom_pushGroup, joinNext_combine, Where.fold,
      foldFrom_entriesAll test own none children]
    rfl

theorem foldFrom_entriesAll (test : Predicate → Bool) (joiner : Joiner) (before : Option Bool) :
    (ts : List (Tree Predicate)) →
    Clause.foldFrom test Joiner.combine before (entriesAll joiner ts) =
      Tree.joinOutcome joiner before (Tree.outcomes test joiner ts)
  | [] => (Tree.joinOutcome_none_right joiner before).symm
  | t :: ts => by
    -- the fold joins from the left, the outcome of the nodes from the right
    rw [entriesAll, Clause.foldFrom_append, foldFrom_entries test joiner before t,
      foldFrom_entriesAll test joiner _ ts, Tree.outcomes, Tree.joinOutcome_assoc]

end

theorem fold_rootEntries (test : Predicate → Bool) (joiner : Joiner) (t : Tree Predicate) :
    (rootEntries joiner t).fold test Joiner.combine = t.outcome test := by
  cases t with
  | leaf predicate => rfl
  | group own children => exact foldFrom_entriesAll test own none children

mutual

theorem predicatesOf_entries (joiner : Joiner) : (t : Tree Predicate) →
    Clause.predicatesOf (entries joiner t) = t.leaves
  | .leaf _ => rfl
  | .group own children => by
    rw [entries, Where.predicatesOf_pushGroup, Tree.leaves]
    exact predicatesOf_entriesAll own children

theorem predicatesOf_entriesAll (joiner : Joiner) : (ts : List (Tree Predicate)) →
    Clause.predicatesOf (entriesAll joiner ts) = Tree.leavesAll ts
  | [] => rfl
  | t :: ts => by
    rw [entriesAll, Clause.predicatesOf_append, predicatesOf_entries joiner t,
      predicatesOf_entriesAll joiner ts, Tree.leavesAll]

end

theorem predicates_rootEntries (joiner : Joiner) (t : Tree Predicate) :
    (rootEntries joiner t).predicates = t.leaves := by
  cases t with
  | leaf predicate => rfl
  | group own children => exact predicatesOf_entriesAll own children

mutual

theorem solid_entries (joiner : Joiner) : (t : Tree Predicate) → (entries joiner t).Solid
  | .leaf _ => ⟨trivial, trivial⟩
  | .group own children =>
    Where.Solid.pushGroup (w := []) trivial joiner (solid_entriesAll own children)

theorem solid_entriesAll (joiner : Joiner) : (ts : List (Tree Predicate)) →
    (entriesAll joiner ts).Solid
  | [] => trivial
  | t :: ts =>
    (Where.solid_append _ _).mpr ⟨solid_entries joiner t, solid_entriesAll joiner ts⟩

end

theorem solid_rootEntries (joiner : Joiner) (t : Tree Predicate) :
    (rootEntries joiner t).Solid := by
  cases t with
  | leaf predicate => exact ⟨trivial, trivial⟩
  | group own children => exact solid_entriesAll own children

end Filter

namespace Query

variable {q q' : Query} {joiner : Joiner} {tree : Tree Condition}

theorem filter_of_ok {resolved : Tree Predicate} (h : tree.mapM Filter.resolve = .ok resolved) :
    q.filter joiner tree = .ok (Filter.addRoot joiner resolved q) := by
  rw [Query.filter, Filter.compile_of_ok h]
  rfl

theorem filter_of_error {e : QueryError} (h : tree.mapM Filter.resolve = .error e) :
    q.filter joiner tree = .error e := by
  rw [Query.filter, Filter.compile_of_error h]
  rfl

/-- A filter is added just when its comparisons resolve, and then as one group. -/
theorem filter_eq_ok_iff :
    q.filter joiner tree = .ok q' ↔ ∃ resolved, tree.mapM Filter.resolve = .ok resolved ∧
      q' = { q with clause := q.clause.pushGroup joiner (Filter.rootEntries joiner resolved) } := by
  simp only [← Filter.addRoot_eq]
  cases resolves : tree.mapM Filter.resolve with
  | error e => simp [filter_of_error resolves]
  | ok resolved => simp [filter_of_ok resolves, eq_comm]

end Query

end DataGrid
