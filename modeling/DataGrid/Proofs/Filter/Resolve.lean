import DataGrid.Filter.Compile

namespace DataGrid

namespace Comparison

def isEquality : Comparison → Bool
  | .equal | .notEqual => true
  | _ => false

def isPattern : Comparison → Bool
  | .like | .notLike => true
  | _ => false

theorem isEquality_eq (c : Comparison) : c.isEquality = (!c.isPattern && !c.isOrdering) := by
  cases c <;> rfl

end Comparison

namespace Operator

theorem wildcard_isSome {o : Operator} (h : o ∈ all) :
    o.wildcard.isSome = o.comparison.isPattern := by
  revert o
  decide

theorem prepare?_eq_some_iff {o : Operator} {v w : Operand} :
    o.prepare? v = some w ↔ o.accepts v = true ∧ o.operand v = w := by
  simp [prepare?]

/-- Without wildcards and apart from orderings only equality is left, which takes null and lists of
scalars too. -/
theorem isScalar_or_isEquality_of_accepts {o : Operator} {v : Operand}
    (pattern : o.comparison.isPattern = false) (wildcard : o.wildcard = none)
    (h : o.accepts v = true) :
    v.isScalar = true ∨ o.comparison.isEquality = true ∧
      (v = .null ∨ ∃ items, v = .list items ∧ items.all Operand.isScalar = true) := by
  unfold accepts at h
  rw [wildcard] at h
  cases ordering : o.comparison.isOrdering with
  | true =>
    rw [ordering] at h
    exact .inl h
  | false =>
    rw [ordering] at h
    have equality : o.comparison.isEquality = true := by
      rw [Comparison.isEquality_eq, pattern, ordering]
      rfl
    cases v with
    | null => exact .inr ⟨equality, .inl rfl⟩
    | list items => exact .inr ⟨equality, .inr ⟨items, rfl, h⟩⟩
    | _ => exact .inl rfl

end Operator

theorem Operand.exists_text_of_isScalar {v : Operand} (scalar : v.isScalar = true) :
    ∃ s, v.text? = some s := by
  cases v with
  | list items => cases scalar
  | null => cases scalar
  | _ => exact ⟨_, rfl⟩

theorem Filter.resolve_eq_ok_iff {c : Condition} {p : Predicate} :
    resolve c = .ok p ↔ ∃ o v, Operator.ofName? c.operator = some o ∧ o.prepare? c.value = some v ∧
      p = ⟨c.field, o.comparison, v⟩ := by
  unfold resolve
  cases Operator.ofName? c.operator with
  | none => simp
  | some o => cases ho : o.prepare? c.value <;> simp [ho, eq_comm]

end DataGrid
