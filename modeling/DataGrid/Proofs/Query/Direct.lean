import DataGrid.Proofs.Query.Building
import DataGrid.Proofs.Query.Reachable
import DataGrid.Proofs.Sql.Where

namespace DataGrid

namespace Filter

mutual

/-- A node built onto a clause; the children of a group are built onto an empty one. -/
def buildNode (joiner : Joiner) : Tree Predicate → Where → Where
  | .leaf predicate, w => w.push joiner predicate
  | .group own children, w => w.pushGroup joiner (buildNodes own children [])

def buildNodes (joiner : Joiner) : List (Tree Predicate) → Where → Where
  | [], w => w
  | t :: ts, w => buildNodes joiner ts (buildNode joiner t w)

end

/-- The root's own group, built onto a clause; a bare comparison is in one, too. -/
def buildRoot (joiner : Joiner) (tree : Tree Predicate) (w : Where) : Where :=
  match tree with
  | .leaf _ => w.pushGroup joiner (buildNode joiner tree [])
  | .group own children => w.pushGroup joiner (buildNodes own children [])

mutual

theorem buildNode_eq (joiner : Joiner) : (t : Tree Predicate) → (w : Where) →
    buildNode joiner t w = w ++ entries joiner t
  | .leaf _, _ => rfl
  | .group own children, w => by
    rw [buildNode, buildNodes_eq own children, entries, w.pushGroup_eq_append]
    rfl

theorem buildNodes_eq (joiner : Joiner) : (ts : List (Tree Predicate)) → (w : Where) →
    buildNodes joiner ts w = w ++ entriesAll joiner ts
  | [], w => (List.append_nil w).symm
  | t :: ts, w => by
    rw [buildNodes, buildNode_eq joiner t, buildNodes_eq joiner ts, entriesAll, List.append_assoc]

end

theorem buildRoot_eq (joiner : Joiner) (t : Tree Predicate) (w : Where) :
    buildRoot joiner t w = w.pushGroup joiner (rootEntries joiner t) := by
  cases t with
  | leaf predicate => rfl
  | group own children =>
    rw [buildRoot, buildNodes_eq]
    rfl

end Filter

namespace Query

mutual

/-- What a step adds to a clause. The steps of a group are built onto an empty one. -/
def Step.build : Step → Where → Where
  | .test joiner predicate, w => w.push joiner predicate
  | .group joiner steps, w => w.pushGroup joiner (Step.buildAll steps [])
  | .filter joiner tree, w =>
    match tree.mapM Filter.resolve with
    | .ok tree => Filter.buildRoot joiner tree w
    | .error _ => w
  | _, w => w

def Step.buildAll : List Step → Where → Where
  | [], w => w
  | s :: steps, w => Step.buildAll steps (s.build w)

end

mutual

def Step.predicates : Step → List Predicate
  | .test _ predicate => [predicate]
  | .group _ steps => Step.predicatesOf steps
  | .filter _ tree =>
    match tree.mapM Filter.resolve with
    | .ok tree => tree.leaves
    | .error _ => []
  | _ => []

def Step.predicatesOf : List Step → List Predicate
  | [] => []
  | s :: steps => s.predicates ++ Step.predicatesOf steps

end

mutual

/-- The steps of a program without its groups: what is in a group stands in the group's place. -/
def Step.ungrouped : Step → List Step
  | .group _ steps => Step.ungroupedAll steps
  | s => [s]

def Step.ungroupedAll : List Step → List Step
  | [] => []
  | s :: steps => s.ungrouped ++ Step.ungroupedAll steps

end

mutual

theorem clause_step : (s : Step) → (q : Query) → (step s q).clause = s.build q.clause
  | .test _ _, _ => rfl
  | .group joiner steps, q => by
    rw [step, Step.build, addGroup, clause_run steps]
  | .orderBy _, _ => rfl
  | .skip _, _ => rfl
  | .take _, _ => rfl
  | .filter joiner tree, q => by
    rw [step_filter, Step.build]
    cases tree.mapM Filter.resolve with
    | error e => rfl
    | ok resolved => exact (Filter.buildRoot_eq joiner resolved q.clause).symm
  | .sort keys, q => by
    rw [step, sortBy_eq]
    rfl
  | .window none, _ => rfl
  | .window (some w), q => clause_window q w
  | .rejected _, _ => rfl

theorem clause_run : (steps : List Step) → (q : Query) →
    (run steps q).clause = Step.buildAll steps q.clause
  | [], _ => rfl
  | s :: steps, q => by
    rw [run, clause_run steps, clause_step s, Step.buildAll]

end

/-- A step leaves the entries before it as they are, and adds at most one. -/
theorem Step.build_eq_append (s : Step) (w : Where) :
    s.build w = w ++ s.build [] ∧ (s.build []).length ≤ 1 := by
  have group (joiner : Joiner) (entries : Where) :
      w.pushGroup joiner entries = w ++ Where.pushGroup [] joiner entries ∧
        (Where.pushGroup [] joiner entries).length ≤ 1 := by
    refine ⟨w.pushGroup_eq_append joiner entries, ?_⟩
    unfold Where.pushGroup
    split <;> simp
  have unchanged : w = w ++ [] ∧ ([] : Where).length ≤ 1 :=
    ⟨(List.append_nil w).symm, Nat.zero_le 1⟩
  cases s with
  | test joiner predicate => exact ⟨rfl, Nat.le_refl 1⟩
  | group joiner steps => exact group joiner _
  | filter joiner tree =>
    rw [Step.build, Step.build]
    cases tree.mapM Filter.resolve with
    | error e => exact unchanged
    | ok resolved =>
      dsimp only
      rw [Filter.buildRoot_eq, Filter.buildRoot_eq]
      exact group joiner _
  | _ => exact unchanged

theorem Step.buildAll_eq_append (steps : List Step) (w : Where) :
    buildAll steps w = w ++ buildAll steps [] := by
  induction steps generalizing w with
  | nil => exact (List.append_nil w).symm
  | cons s steps ih =>
    rw [buildAll, buildAll, ih, ih (s.build []), (s.build_eq_append w).1, List.append_assoc]

mutual

theorem predicatesOf_build : (s : Step) → Clause.predicatesOf (s.build []) = s.predicates
  | .test _ _ => rfl
  | .group joiner steps => by
    rw [Step.build, Step.predicates, Where.predicatesOf_pushGroup]
    exact predicatesOf_buildAll steps
  | .orderBy _ => rfl
  | .skip _ => rfl
  | .take _ => rfl
  | .filter joiner tree => by
    rw [Step.build, Step.predicates]
    cases tree.mapM Filter.resolve with
    | error e => rfl
    | ok resolved =>
      dsimp only
      rw [Filter.buildRoot_eq, Where.predicatesOf_pushGroup, Filter.predicates_rootEntries]
  | .sort _ => rfl
  | .window _ => rfl
  | .rejected _ => rfl

theorem predicatesOf_buildAll : (steps : List Step) →
    Clause.predicatesOf (Step.buildAll steps []) = Step.predicatesOf steps
  | [] => rfl
  | s :: steps => by
    rw [Step.buildAll, Step.buildAll_eq_append, Clause.predicatesOf_append, predicatesOf_build s,
      predicatesOf_buildAll steps, Step.predicatesOf]

end

structure SameBounds (q r : Query) : Prop where
  orders : q.orders = r.orders
  offset : q.offset = r.offset
  limit : q.limit = r.limit

theorem SameBounds.refl (q : Query) : SameBounds q q :=
  ⟨rfl, rfl, rfl⟩

theorem run_append (steps more : List Step) (q : Query) :
    run (steps ++ more) q = run more (run steps q) := by
  induction steps generalizing q with
  | nil => rfl
  | cons s steps ih => exact ih _

mutual

/-- The body of a group starts from another clause, and order and bounds take no notice of it. -/
theorem sameBounds_step : (s : Step) → {q r : Query} → SameBounds q r →
    SameBounds (step s q) (run s.ungrouped r)
  | .test _ _, _, _, h => ⟨h.orders, h.offset, h.limit⟩
  | .group joiner steps, q, r, h => by
    have inner : SameBounds (run steps { q with clause := [] }) (run (Step.ungroupedAll steps) r) :=
      sameBounds_run steps ⟨h.orders, h.offset, h.limit⟩
    exact ⟨inner.orders, inner.offset, inner.limit⟩
  | .orderBy key, _, _, h => ⟨congrArg (· ++ [key]) h.orders, h.offset, h.limit⟩
  | .skip _, _, _, h => ⟨h.orders, rfl, h.limit⟩
  | .take _, _, _, h => ⟨h.orders, h.offset, rfl⟩
  | .filter joiner tree, q, r, h => by
    show SameBounds (step (.filter joiner tree) q) (step (.filter joiner tree) r)
    rw [step_filter, step_filter]
    cases tree.mapM Filter.resolve with
    | error e => exact h
    | ok resolved => exact ⟨h.orders, h.offset, h.limit⟩
  | .sort keys, q, r, h => by
    show SameBounds (step (.sort keys) q) (step (.sort keys) r)
    rw [step, step, sortBy_eq, sortBy_eq]
    exact ⟨congrArg (· ++ keys) h.orders, h.offset, h.limit⟩
  | .window none, _, _, h => h
  | .window (some ⟨_, none⟩), _, _, h => ⟨h.orders, rfl, h.limit⟩
  | .window (some ⟨_, some _⟩), _, _, h => ⟨h.orders, rfl, rfl⟩
  | .rejected _, _, _, h => h

theorem sameBounds_run : (steps : List Step) → {q r : Query} → SameBounds q r →
    SameBounds (run steps q) (run (Step.ungroupedAll steps) r)
  | [], _, _, h => h
  | s :: steps, q, r, h => by
    rw [run, Step.ungroupedAll, run_append]
    exact sameBounds_run steps (sameBounds_step s h)

end

theorem predicates_run (steps : List Step) :
    (run steps {}).clause.predicates = Step.predicatesOf steps := by
  rw [clause_run]
  exact predicatesOf_buildAll steps

/-- Whatever a program does, a table in memory and a table of a database end with the same clause,
order and most rows, and with the same number of rows to skip, where none counts as zero. The clause
is the one built directly: a predicate is put at its end, and a group is built onto an empty clause
and put there as one entry, unless it has none. So a step leaves the entries before it as they are
and adds one at most, no group is empty at any depth, and the predicates are those of the program in
their order. Without any, and only then, the clause has no value, its condition is none, and there
is no WHERE part. Order and bounds are as if what is in groups stood outside of them. -/
theorem builders_end_with_direct_clause (steps : List Step) :
    (Memory.building steps).builder.current = Step.buildAll steps [] ∧
    (Sql.building steps).builder.current = Step.buildAll steps [] ∧
    (Memory.building steps).orders = (Sql.building steps).orders ∧
    (Memory.building steps).offset = (Sql.building steps).offset.getD 0 ∧
    (Memory.building steps).limit = (Sql.building steps).limit ∧
    Sql.building steps = .ofQuery id (run steps {}) ∧
    (∀ (s : Step) (w : Where), s.build w = w ++ s.build [] ∧ (s.build []).length ≤ 1) ∧
    (run steps {}).clause.Solid ∧
    (run steps {}).clause.predicates = Step.predicatesOf steps ∧
    (∀ {α : Type} (leaf : Predicate → α) (join : Joiner → α → α → α),
      (run steps {}).clause.fold leaf join = none ↔ Step.predicatesOf steps = []) ∧
    (Sql.Junction.ofWhere? (run steps {}).clause = none ↔ Step.predicatesOf steps = []) ∧
    (Sql.wherePart (run steps {}).clause = [] ↔ Step.predicatesOf steps = []) ∧
    SameBounds (run steps {}) (run (Step.ungroupedAll steps) {}) := by
  have direct : (run steps {}).clause = Step.buildAll steps [] := clause_run steps {}
  rw [Memory.building_eq, Sql.building_eq]
  refine ⟨direct, direct, rfl, rfl, rfl, rfl, Step.build_eq_append, ?_, predicates_run steps, ?_,
    ?_, ?_, sameBounds_run steps (SameBounds.refl {})⟩
  · exact solid_run steps trivial
  · intro α leaf join
    rw [Where.fold_eq_none_iff, predicates_run]
  · rw [← predicates_run, ← Sql.ofWhere?_eq_none_iff, Sql.Condition.ofWhere?,
      Option.map_eq_none_iff]
  · rw [Sql.wherePart_eq_written, Sql.written_eq_nil_iff, Sql.whereTokens_eq_nil_iff,
      predicates_run]

/-- A group in a group that only orders and skips is not there, and what it sets is. -/
example :
    let steps := [.test .and ⟨"a", .equal, .null⟩,
      .group .or [.orderBy ⟨"a", .asc⟩, .group .and [.skip 3]], .take 2]
    (Step.buildAll steps []).length = 1 ∧ (run steps {}).offset = some 3 ∧
      (run steps {}).orders = [⟨"a", .asc⟩] := by
  decide

end Query

end DataGrid
