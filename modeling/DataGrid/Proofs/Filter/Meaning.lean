import DataGrid.Proofs.Query.Reachable

namespace DataGrid

namespace Filter

/-- What a filter says under a test of its comparisons, each tested as what it resolves to. -/
def outcome (test : Predicate → Bool) (tree : Tree Condition) : Option Bool :=
  tree.outcome fun c => (resolve c).toOption.any test

theorem outcome_of_resolved (test : Predicate → Bool) {tree : Tree Condition}
    {resolved : Tree Predicate} (h : tree.mapM resolve = .ok resolved) :
    outcome test tree = resolved.outcome test :=
  (tree.outcome_of_mapM test h).symm

theorem rootEntries_eq_nil_iff (joiner : Joiner) (t : Tree Predicate) :
    rootEntries joiner t = [] ↔ t.leaves = [] := by
  rw [← (solid_rootEntries joiner t).predicates_eq_nil_iff, predicates_rootEntries]

end Filter

namespace Where

theorem predicates_pushGroup (w : Where) (joiner : Joiner) (entries : Where) :
    (w.pushGroup joiner entries).predicates = w.predicates ++ entries.predicates := by
  rw [pushGroup_eq_append, predicates, Clause.predicatesOf_append, predicatesOf_pushGroup]
  rfl

theorem pushGroup_of_ne_nil {entries : Where} (h : entries ≠ []) (w : Where) (joiner : Joiner) :
    w.pushGroup joiner entries = w ++ [(joiner, .group entries)] := by
  rw [pushGroup, if_neg (by simpa using h)]

/-- A group with a value is joined to a clause that has entries, and stands alone without them. -/
theorem Solid.holds_pushGroup {w entries : Where} (solid : w.Solid) (joiner : Joiner)
    {test : Predicate → Bool} {b : Bool} (h : entries.fold test Joiner.combine = some b) :
    (w.pushGroup joiner entries).holds test =
      if w.isEmpty then b else joiner.combine (w.holds test) b := by
  rw [holds, fold_pushGroup, h]
  cases before : w.fold test Joiner.combine with
  | none =>
    -- entries that hold no predicate would be joined to nothing, but there are none
    have empty : w = [] := solid.predicates_eq_nil_iff.mp (w.fold_eq_none_iff.mp before)
    rw [empty]
    rfl
  | some a =>
    have nonempty : ¬ w.isEmpty := by
      intro empty
      rw [List.isEmpty_iff.mp empty] at before
      cases before
    rw [if_neg nonempty, holds, before]
    rfl

end Where

theorem Query.predicates_of_filter {q q' : Query} {joiner : Joiner} {tree : Tree Condition}
    (added : q.filter joiner tree = .ok q') :
    ∃ ps : List Predicate, tree.leaves.map Filter.resolve = ps.map .ok ∧
      q'.clause.predicates = q.clause.predicates ++ ps := by
  obtain ⟨resolved, hresolved, rfl⟩ := Query.filter_eq_ok_iff.mp added
  refine ⟨resolved.leaves, tree.map_leaves_of_mapM hresolved, ?_⟩
  rw [Where.predicates_pushGroup, Filter.predicates_rootEntries]

theorem Query.holds_of_filter {q : Query} {joiner : Joiner} {tree : Tree Condition}
    (h : Query.filter {} joiner tree = .ok q) (test : Predicate → Bool) :
    q.clause.holds test = (Filter.outcome test tree).getD true := by
  obtain ⟨resolved, hresolved, rfl⟩ := Query.filter_eq_ok_iff.mp h
  have hfold : (Where.pushGroup [] joiner (Filter.rootEntries joiner resolved)).fold test
      Joiner.combine = resolved.outcome test := by
    rw [Where.fold_pushGroup, Filter.fold_rootEntries]
    rfl
  rw [Filter.outcome_of_resolved test hresolved, ← hfold]
  rfl

/-- A filter of one comparison adds what it resolves to, and holds just when that does. -/
theorem Query.exists_filter_of_resolve {c : Condition} {p : Predicate} (joiner : Joiner)
    (resolves : Filter.resolve c = .ok p) :
    ∃ q, Query.filter {} joiner (.leaf c) = .ok q ∧ ∀ test, q.clause.holds test = test p := by
  have resolved := Tree.mapM_leaf_eq_ok_iff.mpr ⟨p, resolves, rfl⟩
  obtain ⟨q, added⟩ : ∃ q, Query.filter {} joiner (.leaf c) = .ok q :=
    ⟨_, filter_eq_ok_iff.mpr ⟨_, resolved, rfl⟩⟩
  refine ⟨q, added, fun test => ?_⟩
  rw [holds_of_filter added, Filter.outcome_of_resolved test resolved]
  rfl

theorem Query.holds_congr {q : Query} {joiner : Joiner} {tree : Tree Condition}
    (h : Query.filter {} joiner tree = .ok q) {test test' : Predicate → Bool}
    (same : ∀ c ∈ tree.leaves, ∀ p, Filter.resolve c = .ok p → test p = test' p) :
    q.clause.holds test = q.clause.holds test' := by
  have alike : ∀ c ∈ tree.leaves, (Filter.resolve c).toOption.any test =
      (Filter.resolve c).toOption.any test' := by
    intro c hc
    cases resolves : Filter.resolve c with
    | error e => rfl
    | ok p => exact same c hc p resolves
  rw [holds_of_filter h, holds_of_filter h, Filter.outcome, Filter.outcome,
    tree.outcome_congr alike]

theorem le_getD_true {a b : Option Bool} (h : Option.Rel (· ≤ ·) a b) :
    a.getD true ≤ b.getD true := by
  cases h with
  | none => exact Bool.le_refl true
  | some le => exact le

/-- Where a test holds of more, so does the clause of a filter. -/
theorem Query.holds_mono {q : Query} {joiner : Joiner} {tree : Tree Condition}
    (h : Query.filter {} joiner tree = .ok q) {test test' : Predicate → Bool}
    (mono : ∀ p, test p ≤ test' p) (holds : q.clause.holds test = true) :
    q.clause.holds test' = true := by
  have more : ∀ c ∈ tree.leaves, (Filter.resolve c).toOption.any test ≤
      (Filter.resolve c).toOption.any test' := by
    intro c _
    cases Filter.resolve c with
    | error e => exact Bool.le_refl false
    | ok p => exact mono p
  have le : q.clause.holds test ≤ q.clause.holds test' := by
    rw [holds_of_filter h, holds_of_filter h]
    exact le_getD_true (tree.outcome_mono more)
  rw [holds] at le
  exact Bool.eq_true_of_true_le le

/-- Adding a filter to a query that some program built leaves its order and window as they were and
puts the resolved comparisons of the filter, in their order, after the predicates it had. A filter
without comparisons leaves the clause as it was. Any other becomes one more group of the clause,
which then holds just when the filter does, joined with what held before if there was anything. -/
theorem filter_keeps_meaning {q q' : Query} {joiner : Joiner} {tree : Tree Condition}
    (reachable : q.Reachable) (added : q.filter joiner tree = .ok q') :
    (∃ ps : List Predicate, tree.leaves.map Filter.resolve = ps.map .ok ∧
      q'.clause.predicates = q.clause.predicates ++ ps) ∧
    q'.orders = q.orders ∧ q'.offset = q.offset ∧ q'.limit = q.limit ∧
    ∀ test : Predicate → Bool,
      (Filter.outcome test tree = none ↔ tree.leaves = []) ∧
      (Filter.outcome test tree = none → q'.clause = q.clause) ∧
      ∀ b, Filter.outcome test tree = some b →
        (∃ entries, entries ≠ [] ∧ q'.clause = q.clause ++ [(joiner, .group entries)]) ∧
        q'.clause.holds test =
          if q.clause.isEmpty then b else joiner.combine (q.clause.holds test) b := by
  have predicates := Query.predicates_of_filter added
  obtain ⟨resolved, hresolved, rfl⟩ := Query.filter_eq_ok_iff.mp added
  refine ⟨predicates, rfl, rfl, rfl, fun test => ⟨?_, ?_, ?_⟩⟩
  · exact tree.outcome_eq_none_iff _
  · intro no_outcome
    rw [Filter.outcome_of_resolved test hresolved, resolved.outcome_eq_none_iff,
      ← Filter.rootEntries_eq_nil_iff joiner] at no_outcome
    dsimp only
    rw [no_outcome]
    rfl
  · intro b hb
    rw [Filter.outcome_of_resolved test hresolved, ← Filter.fold_rootEntries test joiner] at hb
    have nonempty : Filter.rootEntries joiner resolved ≠ [] := by
      intro empty
      rw [empty] at hb
      cases hb
    refine ⟨⟨_, nonempty, Where.pushGroup_of_ne_nil nonempty _ _⟩, ?_⟩
    exact reachable.solid.holds_pushGroup joiner hb

/-- Joined with `or` to a predicate that fails, a filter widens the clause; the empty group in it
says nothing. -/
theorem filter_or_widens :
    ∃ q', (Query.run [.test .and ⟨"a", .equal, .int 1⟩] {}).filter .or
        (.group .and [.leaf ⟨"b", "contains", .str "x"⟩, .group .or []]) = .ok q' ∧
      q'.clause.holds (fun p => p.field == "b") = true := by
  obtain ⟨q', added⟩ : ∃ q', (Query.run [.test .and ⟨"a", .equal, .int 1⟩] {}).filter .or
      (.group .and [.leaf ⟨"b", "contains", .str "x"⟩, .group .or []]) = .ok q' := ⟨_, rfl⟩
  obtain ⟨_, _, _, _, meaning⟩ := filter_keeps_meaning ⟨_, rfl⟩ added
  exact ⟨q', added, ((meaning fun p => p.field == "b").2.2 true rfl).2⟩

end DataGrid
