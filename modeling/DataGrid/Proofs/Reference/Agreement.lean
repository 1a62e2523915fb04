import DataGrid.Proofs.Memory.Page
import DataGrid.Proofs.Reference.Shape
import DataGrid.Proofs.Request

namespace DataGrid

/-- The value is no text, and no number but an integer of 64 bits: only such an integer equals an
integer. -/
def Json.PlainOrInt64 : Json → Prop
  | .str _ => False
  | .num n => n.toInt64?.isSome
  | _ => True

instance (value : Json) : Decidable value.PlainOrInt64 :=
  match value with
  | .str _ => .isFalse id
  | .num n => inferInstanceAs (Decidable n.toInt64?.isSome)
  | .null | .bool _ | .arr _ | .obj _ => .isTrue trivial

namespace IntEquality

def predicate (e : IntEquality) : Predicate :=
  ⟨e.field, .equal, .int e.value⟩

theorem resolve_condition (e : IntEquality) : Filter.resolve e.condition = .ok e.predicate :=
  rfl

theorem compare_toInt_beq (m i : Int64) : (compare m.toInt i.toInt == .eq) = (m == i) := by
  rw [Bool.eq_iff_iff, Std.compare_beq_iff_eq, Int64.toInt_inj, beq_iff_eq]

theorem evaluate_predicate (e : IntEquality) {row : Json}
    (h : ∀ value ∈ row.get? e.field, value.PlainOrInt64) :
    Memory.evaluate e.predicate row = e.test row := by
  unfold Memory.evaluate Memory.present? IntEquality.test predicate
  dsimp only
  cases hvalue : row.get? e.field with
  | none => rfl
  | some value =>
    cases value with
    | null | bool _ | arr _ | obj _ => rfl
    | str s => exact (h _ hvalue).elim
    | num n =>
      obtain ⟨m, hm⟩ : ∃ m, n.toInt64? = some m := Option.isSome_iff_exists.mp (h _ hvalue)
      dsimp only [Memory.test, Memory.equals, Memory.compareScalar]
      rw [hm]
      exact compare_toInt_beq m e.value

end IntEquality

namespace Reference

mutual

theorem leaves_toFilter (joinerOf : Joiner → Nat → Joiner) : (e : Reference) →
    (toFilter joinerOf e).leaves = e.leaves.map IntEquality.condition
  | .leaf _ => rfl
  | .group joiner children => by
    rw [toFilter, Tree.leaves, Tree.leaves]
    exact leavesAll_toFilters joinerOf children

theorem leavesAll_toFilters (joinerOf : Joiner → Nat → Joiner) :
    (ts : List (Tree IntEquality)) →
    Tree.leavesAll (toFilters joinerOf ts) = (Tree.leavesAll ts).map IntEquality.condition
  | [] => rfl
  | t :: ts => by
    rw [toFilters, Tree.leavesAll, Tree.leavesAll, leaves_toFilter joinerOf t,
      leavesAll_toFilters joinerOf ts, List.map_append]

end

mutual

theorem ordered_toObject : (e : Reference) → (toObject e).Ordered
  | .leaf e => by
    have names : ["field", "operator", "value"].Pairwise (· < ·) := by decide
    rw [toObject_leaf]
    exact ⟨List.pairwise_map.mp names, trivial, trivial, trivial, trivial⟩
  | .group joiner children => by
    have names : ["filters", "operator"].Pairwise (· < ·) := by decide
    rw [toObject_group]
    exact ⟨List.pairwise_map.mp names, ordered_toObjects children, trivial, trivial⟩

theorem ordered_toObjects : (ts : List (Tree IntEquality)) → Json.OrderedItems (toObjects ts)
  | [] => trivial
  | t :: ts => ⟨ordered_toObject t, ordered_toObjects ts⟩

end

mutual

theorem ordered_toArray : (e : Reference) → (toArray e).Ordered
  | .leaf _ => ⟨trivial, trivial, trivial, trivial⟩
  | .group joiner children => ordered_toArrays joiner children

theorem ordered_toArrays (joiner : Joiner) : (ts : List (Tree IntEquality)) →
    Json.OrderedItems (toArrays joiner ts)
  | [] => trivial
  | [t] => ⟨ordered_toArray t, trivial⟩
  | t :: u :: us => ⟨ordered_toArray t, trivial, ordered_toArrays joiner (u :: us)⟩

end

theorem exists_resolved_toFilter (joinerOf : Joiner → Nat → Joiner) (e : Reference) :
    ∃ resolved, (toFilter joinerOf e).mapM Filter.resolve = .ok resolved := by
  apply Tree.exists_mapM_eq_ok
  intro condition hcondition
  rw [leaves_toFilter] at hcondition
  obtain ⟨a, _, rfl⟩ := List.mem_map.mp hcondition
  exact ⟨a.predicate, a.resolve_condition⟩

section
variable {joinerOf : Joiner → Nat → Joiner}

mutual

theorem outcome_toFilter (kept : SeveralKept joinerOf) (test : Condition → Bool) :
    (e : Reference) →
    (toFilter joinerOf e).outcome test = e.outcome fun a => test a.condition
  | .leaf _ => rfl
  | .group joiner [] => rfl
  | .group joiner [t] => by
    -- whatever its joiner became, one node has nothing to be joined to
    rw [toFilter, toFilters, toFilters, Tree.outcome, Tree.outcome, Tree.outcomes, Tree.outcomes,
      Tree.outcomes, Tree.outcomes, Tree.joinOutcome_none_right, Tree.joinOutcome_none_right]
    exact outcome_toFilter kept test t
  | .group joiner (t :: u :: us) => by
    rw [toFilter, kept joiner _ (by simp), Tree.outcome, Tree.outcome]
    exact outcomes_toFilters kept test joiner (t :: u :: us)

theorem outcomes_toFilters (kept : SeveralKept joinerOf) (test : Condition → Bool)
    (joiner : Joiner) : (ts : List (Tree IntEquality)) →
    Tree.outcomes test joiner (toFilters joinerOf ts) =
      Tree.outcomes (fun a => test a.condition) joiner ts
  | [] => rfl
  | t :: ts => by
    rw [toFilters, Tree.outcomes, Tree.outcomes, outcome_toFilter kept test t,
      outcomes_toFilters kept test joiner ts]

end

theorem keeps_toFilter (kept : SeveralKept joinerOf) (e : Reference) {row : Json}
    (h : ∀ a ∈ e.leaves, ∀ value ∈ row.get? a.field, value.PlainOrInt64) :
    Filter.keeps (some (toFilter joinerOf e)) row = holds row e := by
  have htest : e.outcome (fun a => (Filter.resolve a.condition).toOption.any
      (Memory.evaluate · row)) = e.outcome (IntEquality.test · row) := by
    refine e.outcome_congr fun a ha => ?_
    rw [a.resolve_condition]
    exact a.evaluate_predicate (h a ha)
  rw [Filter.keeps, Option.bind_some, Filter.outcome, outcome_toFilter kept, htest, holds]

theorem execute_of_parsed (kept : SeveralKept joinerOf) {e : Reference} {rows : List Json}
    {filter : Json} (ordered : filter.Ordered)
    (parsed : Filter.parse filter = .ok (toFilter joinerOf e))
    (plain : ∀ row ∈ rows, ∀ a ∈ e.leaves,
      ∀ value ∈ row.get? a.field, value.PlainOrInt64) :
    ∃ request, Request.ofJson (Request.counted filter) = .ok request ∧
      execute (m := Id) (Memory.source rows) {} request =
        .ok ⟨rows.filter (holds · e), some (rows.filter (holds · e)).length⟩ := by
  have hrows : Memory.filteredRows rows (some (toFilter joinerOf e)) = rows.filter (holds · e) := by
    apply List.filter_congr
    intro row hrow
    exact keeps_toFilter kept e (plain row hrow)
  obtain ⟨resolved, hresolved⟩ := exists_resolved_toFilter joinerOf e
  refine ⟨_, Request.ofJson_counted ordered parsed, ?_⟩
  rw [Memory.execute_counted rows hresolved, hrows]

end

/-- Either shape of an expression is read, and a table answers it with the rows on which the
expression holds, in the order of the table, and with their number. -/
theorem answer_is_rows_that_hold {e : Reference} {rows : List Json} (named : Named e)
    (plain : ∀ row ∈ rows, ∀ a ∈ e.leaves,
      ∀ value ∈ row.get? a.field, value.PlainOrInt64) :
    ∀ filter ∈ [toObject e, toArray e], ∃ request,
      Request.ofJson (Request.counted filter) = .ok request ∧
      execute (m := Id) (Memory.source rows) {} request =
        .ok ⟨rows.filter (holds · e), some (rows.filter (holds · e)).length⟩ := by
  intro filter hfilter
  obtain rfl | rfl : filter = toObject e ∨ filter = toArray e := by simpa using hfilter
  · exact execute_of_parsed objectJoiner_severalKept (ordered_toObject e)
      (parseAt_toObject [] e named) plain
  · exact execute_of_parsed arrayJoiner_severalKept (ordered_toArray e)
      (parseAt_toArray [] e named) plain

/-- Aged 35 or 50, and either number 4 or the number 2 of team 1. The empty group says nothing. -/
def aged35Or50 : Reference :=
  .group .and
    [.group .or [.leaf ⟨"age", 35⟩, .leaf ⟨"age", 50⟩], .group .or [],
      .group .or [.group .and [.leaf ⟨"id", 2⟩, .leaf ⟨"team", 1⟩], .leaf ⟨"id", 4⟩]]

def ages : List Json :=
  Fixture.people ++ [Fixture.withField "age" .null (Fixture.record 5), Fixture.record 6]

theorem answer_of_aged35Or50 :
    ∃ request envelope,
      Request.ofJson (Request.counted (toArray aged35Or50)) = .ok request ∧
      execute (m := Id) (Memory.source ages) {} request = .ok envelope ∧
      Fixture.ids envelope.data = [4] ∧ envelope.totalCount = some 1 := by
  have named : Named aged35Or50 := by unfold Named; decide +kernel
  have plain : ∀ row ∈ ages, ∀ a ∈ aged35Or50.leaves,
      ∀ value ∈ row.get? a.field, value.PlainOrInt64 := by decide +kernel
  obtain ⟨request, hrequest, answered⟩ :=
    answer_is_rows_that_hold named plain (toArray aged35Or50) (by simp)
  exact ⟨request, _, hrequest, answered, by decide +kernel, by decide +kernel⟩

end Reference

end DataGrid
