import DataGrid.Proofs.Filter.Meaning
import DataGrid.Proofs.Filter.Resolve
import DataGrid.Proofs.Memory.Values
import DataGrid.Proofs.Operand

namespace DataGrid

theorem Double.compare?_swap (a b : Double) : b.compare? a = (a.compare? b).map Ordering.swap := by
  unfold compare?
  cases a.rank? with
  | none => cases b.rank? <;> rfl
  | some m =>
    cases b.rank? with
    | none => rfl
    | some n => exact congrArg some (Int.compare_swap m n).symm

/-- The outcomes of a comparison that an operator without a pattern is satisfied with. -/
def Comparison.admits : Comparison → Ordering → Bool
  | .equal, o => o == .eq
  | .notEqual, o => o != .eq
  | .greater, o => o == .gt
  | .greaterOrEqual, o => o != .lt
  | .less, o => o == .lt
  | .lessOrEqual, o => o != .gt
  | .like, _ | .notLike, _ => false

def Operator.comparing : List (String × Comparison) :=
  [("equal", .equal), ("notEqual", .notEqual), ("greaterThan", .greater),
    ("greaterThanOrEqual", .greaterOrEqual), ("lessThan", .less), ("lessThanOrEqual", .lessOrEqual)]

namespace Operator

section
variable {name : String} {c : Comparison} (named : (name, c) ∈ comparing)
include named

theorem ofName?_of_comparing : ofName? name = some ⟨name, c, none⟩ := by
  simp only [comparing, List.mem_cons, Prod.mk.injEq, List.not_mem_nil, or_false] at named
  rcases named with ⟨rfl, rfl⟩ | ⟨rfl, rfl⟩ | ⟨rfl, rfl⟩ | ⟨rfl, rfl⟩ | ⟨rfl, rfl⟩ | ⟨rfl, rfl⟩ <;>
    rfl

theorem isPattern_of_comparing : c.isPattern = false := by
  have none_is_pattern : ∀ entry ∈ comparing, entry.2.isPattern = false := by decide
  exact none_is_pattern _ named

end

end Operator

theorem Filter.resolve_eq_comparing {name : String} {c : Comparison}
    (named : (name, c) ∈ Operator.comparing) (field : String) {operand : Operand}
    (scalar : operand.isScalar = true) :
    Filter.resolve ⟨field, name, operand⟩ = .ok ⟨field, c, operand⟩ := by
  refine Filter.resolve_eq_ok_iff.mpr
    ⟨_, operand, Operator.ofName?_of_comparing named, Operator.prepare?_eq_some_iff.mpr ⟨?_, rfl⟩, rfl⟩
  cases operand with
  | list items => cases scalar
  | null => cases scalar
  | _ => cases hc : c.isOrdering <;> simp [Operator.accepts, Operand.isScalar, hc]

namespace Memory

theorem exists_kept_of_resolve {condition : Condition} {p : Predicate} (joiner : Joiner)
    (resolves : Filter.resolve condition = .ok p) :
    ∃ q, Query.filter {} joiner (.leaf condition) = .ok q ∧
      ∀ rows row, row ∈ kept rows q ↔ row ∈ rows ∧ evaluate p row = true := by
  obtain ⟨q, added, holds⟩ := Query.exists_filter_of_resolve joiner resolves
  refine ⟨q, added, fun rows row => ?_⟩
  rw [kept, List.mem_filter, holds]

theorem present?_eq_some {field : String} {row value : Json} (held : row.get? field = some value)
    (proper : value ≠ .null) : present? field row = some value := by
  unfold present?
  rw [held]
  cases value with
  | null => exact absurd rfl proper
  | _ => rfl

/-- An operator that compares keeps a row just when it admits how the value there compares. -/
theorem evaluate_of_compareScalar {field : String} {row value : Json} {c : Comparison}
    {operand : Operand} {o : Ordering} (held : row.get? field = some value)
    (scalar : operand.isScalar = true) (pattern : c.isPattern = false)
    (compared : compareScalar value operand = some o) :
    evaluate ⟨field, c, operand⟩ row = c.admits o := by
  have proper : value ≠ .null := by
    rintro rfl
    cases compared
  have equal : equals value operand = (o == .eq) := by
    cases operand with
    | list items => cases scalar
    | null => cases scalar
    | _ => rw [equals, compared] <;> simp
  rw [evaluate, present?_eq_some held proper]
  cases c with
  | equal => exact equal
  | notEqual => simp only [test, Comparison.admits, equal, bne]
  | like => cases pattern
  | notLike => cases pattern
  | _ => simp [test, Comparison.admits, compared]

/-- An operand that is a number is as much as a number in a row. -/
theorem compareScalar_ofNumber (m n : Json.Number) :
    compareScalar (.num m) (.ofNumber n) = some (compareNumbers m n) := by
  unfold Operand.ofNumber
  cases hn : n.toInt64? with
  | none =>
    rw [compareNumbers_of_rounded (.inr hn), ← Json.Number.compare?_toDouble]
    rfl
  | some y =>
    obtain ⟨i, rfl, value⟩ := Json.Number.toInt_of_toInt64? hn
    dsimp only [compareScalar]
    cases hm : m.toInt64? with
    | some x => rw [compareNumbers_of_int64 hm hn]
    | none =>
      rw [compareNumbers_of_rounded (.inl hm), ← Json.Number.compare?_toDouble, ← value]
      rfl

theorem compareScalar_str_ofNumber (s : String) (n : Json.Number) :
    compareScalar (.str s) (.ofNumber n) =
      (Double.parse? (Text.trim s)).bind (·.compare? n.toDouble) := by
  unfold Operand.ofNumber
  cases hn : n.toInt64? with
  | none => rfl
  | some y =>
    obtain ⟨i, rfl, value⟩ := Json.Number.toInt_of_toInt64? hn
    rw [compareScalar, ← value]
    rfl

theorem compareScalar_num_str_swap (n : Json.Number) (s : String) :
    compareScalar (.str s) (.ofNumber n) =
      (compareScalar (.num n) (.str s)).map Ordering.swap := by
  rw [compareScalar_str_ofNumber, compareScalar]
  cases Double.parse? (Text.trim s) with
  | none => rfl
  | some x => exact Double.compare?_swap n.toDouble x

inductive SameKind : Json → Json → Prop
  | numbers (m n : Json.Number) : SameKind (.num m) (.num n)
  | texts (s t : String) : SameKind (.str s) (.str t)
  | truths (p q : Bool) : SameKind (.bool p) (.bool q)

/-- Besides values of one kind, a number compares with a text. -/
inductive Comparable : Json → Json → Prop
  | sameKind {a b : Json} : SameKind a b → Comparable a b
  | numberText (n : Json.Number) (s : String) : Comparable (.num n) (.str s)
  | textNumber (s : String) (n : Json.Number) : Comparable (.str s) (.num n)

theorem SameKind.symm {a b : Json} (h : SameKind a b) : SameKind b a := by
  cases h with
  | numbers m n => exact .numbers n m
  | texts s t => exact .texts t s
  | truths p q => exact .truths q p

theorem Comparable.symm {a b : Json} (h : Comparable a b) : Comparable b a := by
  cases h with
  | sameKind same => exact .sameKind same.symm
  | numberText n s => exact .textNumber s n
  | textNumber s n => exact .numberText n s

theorem compareScalar_eq_none {a b : Json} {y : Operand} (hy : Operand.ofJson? b = some y)
    (apart : ¬ Comparable a b) : compareScalar a y = none := by
  cases b with
  | null =>
    cases hy
    cases a <;> rfl
  | bool q =>
    cases hy
    cases a with
    | bool p => exact absurd (.sameKind (.truths p q)) apart
    | _ => rfl
  | num n =>
    cases hy
    unfold Operand.ofNumber
    cases a with
    | num m => exact absurd (.sameKind (.numbers m n)) apart
    | str s => exact absurd (.textNumber s n) apart
    | _ => cases n.toInt64? <;> rfl
  | str t =>
    cases hy
    cases a with
    | num m => exact absurd (.numberText m t) apart
    | str s => exact absurd (.sameKind (.texts s t)) apart
    | _ => rfl
  | arr items =>
    obtain ⟨_, _, rfl⟩ := Option.map_eq_some_iff.mp hy
    cases a <;> rfl
  | obj fields => cases hy

section
variable {a b : Json} {x y : Operand}

theorem isScalar_of_sameKind (hy : Operand.ofJson? b = some y) (same : SameKind a b) :
    y.isScalar = true := by
  cases same with
  | numbers m n =>
    cases hy
    unfold Operand.ofNumber
    split <;> rfl
  | texts s t =>
    cases hy
    rfl
  | truths p q =>
    cases hy
    rfl

theorem compareScalar_of_sameKind (hy : Operand.ofJson? b = some y) (same : SameKind a b) :
    compareScalar a y = some (compareValues (some a) (some b)) := by
  cases same with
  | numbers m n =>
    cases hy
    exact compareScalar_ofNumber m n
  | texts s t =>
    cases hy
    rfl
  | truths p q =>
    cases hy
    rfl

theorem compareScalar_swap (hx : Operand.ofJson? a = some x) (hy : Operand.ofJson? b = some y) :
    compareScalar b x = (compareScalar a y).map Ordering.swap := by
  by_cases comparable : Comparable a b
  · cases comparable with
    | sameKind same =>
      rw [compareScalar_of_sameKind hy same, compareScalar_of_sameKind hx same.symm,
        compareValues_swap (some a) (some b)]
      rfl
    | numberText n s =>
      cases hx
      cases hy
      exact compareScalar_num_str_swap n s
    | textNumber s n =>
      cases hx
      cases hy
      rw [compareScalar_num_str_swap n s, Option.map_map]
      simp [Function.comp_def]
  · rw [compareScalar_eq_none hy comparable,
      compareScalar_eq_none hx fun reverse => comparable reverse.symm]
    rfl

end

theorem compareRows_single {field : String} {row pivot a b : Json} (held : row.get? field = some a)
    (holds : pivot.get? field = some b) :
    compareRows [⟨field, .asc⟩] row pivot = compareValues (some a) (some b) := by
  simp [compareRows, directed, held, holds]

/-- Values without an object are operands too. A comparison of two of them gives the reverse when they
change sides, or nothing from either. For two numbers, two texts or two truth values it gives what
sorting goes by. So an operator that compares keeps, of the rows with a value of that kind, those that
sort as it says against a row that holds the operand: `lessThan` those that come strictly before. -/
theorem comparisons_agree_with_order {a b : Json} (ha : a.holdsObject = false)
    (hb : b.holdsObject = false) :
    ∃ x y, Operand.ofJson? a = some x ∧ Operand.ofJson? b = some y ∧
      compareScalar b x = (compareScalar a y).map Ordering.swap ∧
      (SameKind a b →
        compareScalar a y = some (compareValues (some a) (some b)) ∧
        ∀ (joiner : Joiner) (field name : String) (c : Comparison),
          (name, c) ∈ Operator.comparing →
          ∃ q, Query.filter {} joiner (.leaf ⟨field, name, y⟩) = .ok q ∧
            ∀ row pivot, row.get? field = some a → pivot.get? field = some b →
              ∀ rows, row ∈ kept rows q ↔
                row ∈ rows ∧ c.admits (compareRows [⟨field, .asc⟩] row pivot) = true) := by
  obtain ⟨x, hx⟩ := Operand.exists_ofJson?_iff.mpr ha
  obtain ⟨y, hy⟩ := Operand.exists_ofJson?_iff.mpr hb
  refine ⟨x, y, hx, hy, compareScalar_swap hx hy, fun same => ?_⟩
  have scalar : y.isScalar = true := isScalar_of_sameKind hy same
  have compared := compareScalar_of_sameKind hy same
  refine ⟨compared, fun joiner field name c named => ?_⟩
  obtain ⟨q, added, keeps⟩ :=
    exists_kept_of_resolve joiner (Filter.resolve_eq_comparing named field scalar)
  refine ⟨q, added, fun row pivot held holds rows => ?_⟩
  rw [keeps, compareRows_single held holds,
    evaluate_of_compareScalar held scalar (Operator.isPattern_of_comparing named) compared]

/-- The largest integer, which as an operand is rounded, sorts after a seven and is greater than it; a
seven is less than it. -/
theorem order_of_largest_integer :
    let largest : Json := .ofNat 0xFFFFFFFFFFFFFFFF
    compareScalar (.ofInt64 7) (.float (.ofInt 0xFFFFFFFFFFFFFFFF)) = some .lt ∧
      ∃ q, Query.filter {} .and (.leaf ⟨"n", "greaterThan", .int 7⟩) = .ok q ∧
        .obj [("n", largest)] ∈ kept [.obj [("n", largest)]] q := by
  intro largest
  obtain ⟨x, y, hx, hy, reversed, sorted⟩ :=
    comparisons_agree_with_order (a := largest) (b := .ofInt64 7) rfl rfl
  cases hx
  cases hy
  obtain ⟨compared, keeps⟩ := sorted (.numbers _ _)
  have after : compareValues (some largest) (some (.ofInt64 7)) = .gt := by decide +kernel
  obtain ⟨q, added, keeps⟩ := keeps .and "n" "greaterThan" .greater (by decide)
  refine ⟨?_, q, added, (keeps _ (.obj [("n", .ofInt64 7)]) rfl rfl _).mpr
    ⟨List.mem_singleton_self _, ?_⟩⟩
  · rw [compared, after] at reversed
    exact reversed
  · rw [compareRows_single rfl rfl, after]
    rfl

end Memory

end DataGrid
