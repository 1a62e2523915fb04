import DataGrid.Proofs.Execution.Rejection
import DataGrid.Proofs.Filter.Resolve
import DataGrid.Proofs.Query.Building
import DataGrid.Proofs.Result

namespace DataGrid

/-- These compare with null and with lists, too. -/
def equalityOperators : List String :=
  ["equal", "notEqual"]

/-- The orderings and the patterns. -/
def scalarOperators : List String :=
  ["greaterThan", "greaterThanOrEqual", "lessThan", "lessThanOrEqual", "contains", "notContains",
    "startsWith", "endsWith"]

inductive Operand.FitFor (operator : String) : Operand → Prop where
  | scalar {v : Operand} (known : operator ∈ equalityOperators ∨ operator ∈ scalarOperators)
      (scalar : v.isScalar = true) : FitFor operator v
  | null (equality : operator ∈ equalityOperators) : FitFor operator .null
  | list {items : List Operand} (equality : operator ∈ equalityOperators)
      (scalars : ∀ item ∈ items, item.isScalar = true) : FitFor operator (.list items)

theorem Operand.FitFor.known {operator : String} {v : Operand} (fit : v.FitFor operator) :
    operator ∈ equalityOperators ∨ operator ∈ scalarOperators := by
  cases fit with
  | scalar known _ => exact known
  | null equality => exact .inl equality
  | list equality _ => exact .inl equality

namespace Condition

def Acceptable (c : Condition) : Prop :=
  c.value.FitFor c.operator

/-- What is told of a comparison that cannot be made: its operator if there is none of that name,
else the kind of its operand. -/
def refusal (c : Condition) : QueryError :=
  if c.operator ∈ equalityOperators ∨ c.operator ∈ scalarOperators then
    .unsupportedValue c.operator c.value.kind
  else .unknownOperator c.operator

end Condition

namespace Operator

theorem ofName?_name {o : Operator} (h : o ∈ all) : ofName? o.name = some o := by
  revert o
  decide

theorem ofName?_eq_some_iff {name : String} {o : Operator} :
    ofName? name = some o ↔ o ∈ all ∧ o.name = name := by
  constructor
  · intro h
    have same := List.find?_some h
    exact ⟨List.mem_of_find?_eq_some h, beq_iff_eq.mp same⟩
  · rintro ⟨known, rfl⟩
    exact ofName?_name known

/-- There are ten names, and each is of one of the two sorts. -/
theorem exists_ofName?_iff {name : String} :
    (∃ o, ofName? name = some o) ↔ name ∈ equalityOperators ∨ name ∈ scalarOperators := by
  have names : all.map Operator.name = equalityOperators ++ scalarOperators := rfl
  rw [← List.mem_append, ← names, List.mem_map]
  simp only [ofName?_eq_some_iff]

theorem mem_scalarOperators_iff {o : Operator} (h : o ∈ all) :
    o.name ∈ scalarOperators ↔ (o.wildcard.isSome || o.comparison.isOrdering) = true := by
  revert o
  decide

theorem mem_equalityOperators_iff {o : Operator} (h : o ∈ all) :
    o.name ∈ equalityOperators ↔ (o.wildcard.isSome || o.comparison.isOrdering) = false := by
  revert o
  decide

theorem accepts_iff_fitFor {o : Operator} (h : o ∈ all) (v : Operand) :
    o.accepts v = true ↔ v.FitFor o.name := by
  have sort := mem_scalarOperators_iff h
  have other := mem_equalityOperators_iff h
  unfold accepts
  cases takesScalar : o.wildcard.isSome || o.comparison.isOrdering with
  | true =>
    have scalar : o.name ∈ scalarOperators := sort.mpr takesScalar
    have not_equality : o.name ∉ equalityOperators := by simp [other, takesScalar]
    constructor
    · exact .scalar (.inr scalar)
    · intro fit
      cases fit with
      | scalar _ scalar => exact scalar
      | null equality => exact absurd equality not_equality
      | list equality _ => exact absurd equality not_equality
  | false =>
    have equality : o.name ∈ equalityOperators := other.mpr takesScalar
    rw [if_neg Bool.false_ne_true]
    constructor
    · intro accepts
      cases v with
      | null => exact .null equality
      | list items => exact .list equality (List.all_eq_true.mp accepts)
      | _ => exact .scalar (.inl equality) rfl
    · intro fit
      cases fit with
      | null => rfl
      | list _ scalars => exact List.all_eq_true.mpr scalars
      | scalar _ scalar =>
        cases v with
        | list items => cases scalar
        | _ => rfl

end Operator

namespace Filter

theorem errorOf?_resolve_eq_some_iff {c : Condition} {e : QueryError} :
    errorOf? (resolve c) = some e ↔ ¬c.Acceptable ∧ e = c.refusal := by
  have sorts := @Operator.exists_ofName?_iff c.operator
  unfold resolve Condition.Acceptable Condition.refusal
  cases found : Operator.ofName? c.operator with
  | none =>
    have unknown : ¬(c.operator ∈ equalityOperators ∨ c.operator ∈ scalarOperators) := by
      rw [← sorts, found]
      exact nofun
    rw [if_neg unknown, and_iff_right fun fit => unknown fit.known]
    simp [errorOf?, eq_comm]
  | some o =>
    obtain ⟨known, name⟩ := Operator.ofName?_eq_some_iff.mp found
    rw [if_pos (sorts.mp ⟨o, found⟩), ← name, ← Operator.accepts_iff_fitFor known]
    dsimp only
    rw [Operator.prepare?]
    cases o.accepts c.value <;> simp [errorOf?, eq_comm]

theorem errorOf?_resolve_eq_none_iff {c : Condition} :
    errorOf? (resolve c) = none ↔ c.Acceptable := by
  rw [Option.eq_none_iff_forall_ne_some]
  simp only [ne_eq, errorOf?_resolve_eq_some_iff]
  simp

end Filter

section
variable {q : Query} {joiner : Joiner} {tree : Tree Condition}

theorem Query.filter_eq_error_iff {e : QueryError} :
    q.filter joiner tree = .error e ↔
      ∃ before c after, tree.leaves = before ++ c :: after ∧
        (∀ earlier ∈ before, earlier.Acceptable) ∧ ¬c.Acceptable ∧ e = c.refusal := by
  rw [← errorOf?_eq_some_iff, Query.errorOf?_filter, List.findSome?_eq_some_iff]
  simp only [Filter.errorOf?_resolve_eq_some_iff, Filter.errorOf?_resolve_eq_none_iff]
  constructor
  · rintro ⟨before, c, after, leaves, ⟨unfit, refused⟩, earlier⟩
    exact ⟨before, c, after, leaves, earlier, unfit, refused⟩
  · rintro ⟨before, c, after, leaves, earlier, unfit, refused⟩
    exact ⟨before, c, after, leaves, ⟨unfit, refused⟩, earlier⟩

theorem Query.exists_filter_iff :
    (∃ q', q.filter joiner tree = .ok q') ↔ ∀ c ∈ tree.leaves, c.Acceptable := by
  have told : errorOf? (q.filter joiner tree) = none ↔ ∀ c ∈ tree.leaves, c.Acceptable := by
    rw [Query.errorOf?_filter, List.findSome?_eq_none_iff]
    simp only [Filter.errorOf?_resolve_eq_none_iff]
  rw [← told]
  cases q.filter joiner tree <;> simp [errorOf?]

theorem Query.mapM_of_filter_error {e : QueryError} (h : q.filter joiner tree = .error e) :
    tree.mapM Filter.resolve = .error e := by
  cases resolves : tree.mapM Filter.resolve with
  | error e' =>
    rw [filter_of_error resolves] at h
    cases h
    rfl
  | ok resolved =>
    rw [filter_of_ok resolves] at h
    cases h

end

/-- A filter is added just when each comparison in it can be made: its operator has one of the ten
names, and its operand is a scalar, or for an equality null or a list of scalars. Any other filter
fails with what is told of the first comparison in it, in the order of its leaves, that cannot be
made. Then what comes back with the error is the query that the filter was to be added to, clause,
order and window, whatever holds it, and the step of a program that adds the filter says so and
changes nothing. -/
theorem filter_is_added_whole_or_not_at_all (q : Query) (joiner : Joiner) (tree : Tree Condition) :
    ((∃ q', q.filter joiner tree = .ok q') ↔ ∀ c ∈ tree.leaves, c.Acceptable) ∧
    (∀ e, q.filter joiner tree = .error e ↔
      ∃ before c after, tree.leaves = before ++ c :: after ∧
        (∀ earlier ∈ before, earlier.Acceptable) ∧ ¬c.Acceptable ∧ e = c.refusal) ∧
    ∀ e, q.filter joiner tree = .error e →
      (Query.Step.filter joiner tree).rejection? = some (.query e) ∧
      (∀ (σ : Type) [Queryable σ] (s : σ),
        (Filter.compile joiner tree).run.run s = (.error e, s)) ∧
      Query.step (.filter joiner tree) q = q ∧
      ∀ (ω : Type) (held : Nat → ω) (b : Building ω),
        Building.step held (.filter joiner tree) b = b := by
  refine ⟨Query.exists_filter_iff, fun e => Query.filter_eq_error_iff, fun e failed => ?_⟩
  have unresolved := Query.mapM_of_filter_error failed
  refine ⟨?_, fun σ _ s => Filter.compile_of_error unresolved s, ?_, fun ω held b => ?_⟩
  · rw [Query.Step.rejection?, unresolved]
  · rw [Query.step, Filter.compile_of_error unresolved]
  · rw [Building.step, Filter.compile_of_error unresolved]

/-- Of two comparisons that cannot be made the first is told of, however deep it stands and whatever
stands before it. -/
theorem first_refusal_of_nested :
    let tree : Tree Condition := .group .and [.leaf ⟨"a", "equal", .list [.int 1, .str "x"]⟩,
      .group .or [.group .and [], .leaf ⟨"b", "contains", .null⟩, .leaf ⟨"c", "bogus", .int 1⟩]]
    ∃ q : Query, q.clause ≠ [] ∧
      q.filter .or tree = .error (.unsupportedValue "contains" "null") ∧
      (Filter.compile .or tree).run.run q = (.error (.unsupportedValue "contains" "null"), q) ∧
      Query.step (.filter .or tree) q = q := by
  intro tree
  let q : Query := Query.run [.test .and ⟨"a", .equal, .int 1⟩] {}
  have failed : q.filter .or tree = .error (.unsupportedValue "contains" "null") := rfl
  obtain ⟨_, _, unchanged⟩ := filter_is_added_whole_or_not_at_all q .or tree
  obtain ⟨_, compiled, stepped, _⟩ := unchanged _ failed
  exact ⟨q, nofun, failed, compiled Query q, stepped⟩

end DataGrid
