import DataGrid.Proofs.Double.Nearest
import DataGrid.Proofs.Memory.Compare

namespace DataGrid

def Comparison.relates : Comparison → Int → Int → Prop
  | .equal, a, b => a = b
  | .notEqual, a, b => a ≠ b
  | .greater, a, b => a > b
  | .greaterOrEqual, a, b => a ≥ b
  | .less, a, b => a < b
  | .lessOrEqual, a, b => a ≤ b
  | .like, _, _ | .notLike, _, _ => False

theorem Comparison.admits_compare_iff (c : Comparison) (a b : Int) :
    c.admits (compare a b) = true ↔ c.relates a b := by
  rcases Int.lt_trichotomy a b with less | rfl | greater
  · rw [Int.compare_eq_lt.mpr less]
    cases c <;> simp [admits, relates] <;> omega
  · rw [Int.compare_eq_eq.mpr rfl]
    cases c <;> simp [admits, relates]
  · rw [Int.compare_eq_gt.mpr greater]
    cases c <;> simp [admits, relates] <;> omega

namespace Json.Integer

/-- Two integers, not both of which fit 64 bits with a sign, that are rounded to one double. -/
def Merged (a b : Integer) : Prop :=
  a.val ≠ b.val ∧ (0x8000000000000000 ≤ a.val ∨ 0x8000000000000000 ≤ b.val) ∧
    (Double.ofInt a.val).rank? = (Double.ofInt b.val).rank?

instance (a b : Integer) : Decidable (Merged a b) :=
  inferInstanceAs (Decidable (_ ∧ _ ∧ _))

theorem merged_iff {a b : Integer} : Merged a b ↔ a.val ≠ b.val ∧
    (0x8000000000000000 ≤ a.val ∨ 0x8000000000000000 ≤ b.val) ∧
      Double.rankOfInt a.val = Double.rankOfInt b.val := by
  rw [Merged, Double.rank?_ofInt, Double.rank?_ofInt, Option.some_inj]

theorem rank_eq (a : Integer) : (Number.int a).rank = Double.rankOfInt a.val := by
  rw [Number.rank, Number.toDouble, Double.rank?_ofInt, Option.getD_some]

end Json.Integer

open Json

namespace Memory

/-- Rounding loses no more than the difference between integers. -/
theorem compare_rankOfInt {a b : Int} (apart : Double.rankOfInt a ≠ Double.rankOfInt b) :
    compare (Double.rankOfInt a) (Double.rankOfInt b) = compare a b := by
  rcases Int.lt_trichotomy a b with less | rfl | greater
  · have := Double.rankOfInt_mono (Int.le_of_lt less)
    rw [Int.compare_eq_lt.mpr less, Int.compare_eq_lt]
    omega
  · exact absurd rfl apart
  · have := Double.rankOfInt_mono (Int.le_of_lt greater)
    rw [Int.compare_eq_gt.mpr greater, Int.compare_eq_gt]
    omega

theorem compareNumbers_of_not_merged {a b : Integer} (apart : ¬ Integer.Merged a b) :
    compareNumbers (.int a) (.int b) = compare a.val b.val := by
  rw [Integer.merged_iff] at apart
  by_cases large : 0x8000000000000000 ≤ a.val ∨ 0x8000000000000000 ≤ b.val
  · rw [compareNumbers_of_rounded (large.imp Number.toInt64?_eq_none_iff.mpr
      Number.toInt64?_eq_none_iff.mpr), Integer.rank_eq, Integer.rank_eq]
    by_cases same : a.val = b.val
    · rw [same, Int.compare_eq_eq.mpr rfl, Int.compare_eq_eq.mpr rfl]
    · exact compare_rankOfInt fun merged => apart ⟨same, large, merged⟩
  · have fits_a : (Number.int a).toInt64? ≠ none := by
      rw [ne_eq, Number.toInt64?_eq_none_iff]
      omega
    have fits_b : (Number.int b).toInt64? ≠ none := by
      rw [ne_eq, Number.toInt64?_eq_none_iff]
      omega
    obtain ⟨x, hx⟩ := Option.ne_none_iff_exists'.mp fits_a
    obtain ⟨y, hy⟩ := Option.ne_none_iff_exists'.mp fits_b
    obtain ⟨_, ⟨⟩, ha⟩ := Number.toInt_of_toInt64? hx
    obtain ⟨_, ⟨⟩, hb⟩ := Number.toInt_of_toInt64? hy
    rw [compareNumbers_of_int64 hx hy, ha, hb]

theorem compareNumbers_of_merged {a b : Integer} (merged : Integer.Merged a b) :
    compareNumbers (.int a) (.int b) = .eq := by
  obtain ⟨-, large, same⟩ := Integer.merged_iff.mp merged
  rw [compareNumbers_of_rounded (large.imp Number.toInt64?_eq_none_iff.mpr
    Number.toInt64?_eq_none_iff.mpr), Integer.rank_eq, Integer.rank_eq, same, Int.compare_eq_eq]

theorem sub_le_of_merged {a b : Integer} (merged : Integer.Merged a b) :
    (a.val - b.val).natAbs ≤ 2048 := by
  have size (i : Integer) : i.val.natAbs < 2 ^ 64 := by
    have lower := i.lower
    have upper := i.upper
    omega
  have moved_a := Double.rankOfInt_error (size a)
  have moved_b := Double.rankOfInt_error (size b)
  rw [(Integer.merged_iff.mp merged).2.2] at moved_a
  have unit := Double.one_pos
  generalize Double.one = u at moved_a moved_b unit
  have apart : ((a.val - b.val) * u).natAbs ≤ 2048 * u := by
    rw [Int.sub_mul]
    omega
  rw [Int.natAbs_mul, Int.natAbs_natCast] at apart
  exact Nat.le_of_mul_le_mul_right apart unit

/-- Against an operand that is an integer an operator that compares keeps the rows whose integer it
relates to the operand, unless the two are merged, and then as if they were equal. That is just when
they differ, one of them needs 64 bits without a sign, and no double tells them apart, which takes a
difference of at most 2048. -/
theorem integers_compare_exactly_unless_merged (a b : Integer) (joiner : Joiner)
    (field name : String) {c : Comparison} (named : (name, c) ∈ Operator.comparing) :
    (∃ operand q, Operand.ofJson? (.num (.int b)) = some operand ∧
      Query.filter {} joiner (.leaf ⟨field, name, operand⟩) = .ok q ∧
      ∀ row, row.get? field = some (.num (.int a)) → ∀ rows,
        (row ∈ kept rows q ↔ row ∈ rows ∧
          if Integer.Merged a b then c.relates a.val a.val else c.relates a.val b.val)) ∧
    (Integer.Merged a b → (a.val - b.val).natAbs ≤ 2048) := by
  refine ⟨?_, sub_le_of_merged⟩
  have scalar : (Operand.ofNumber (.int b)).isScalar = true :=
    isScalar_of_sameKind rfl (.numbers (.int a) (.int b))
  obtain ⟨q, added, keeps⟩ :=
    exists_kept_of_resolve joiner (Filter.resolve_eq_comparing named field scalar)
  refine ⟨_, q, rfl, added, fun row held rows => ?_⟩
  rw [keeps, evaluate_of_compareScalar held scalar (Operator.isPattern_of_comparing named)
    (compareScalar_ofNumber (.int a) (.int b))]
  by_cases merged : Integer.Merged a b
  · rw [if_pos merged, compareNumbers_of_merged merged, ← Comparison.admits_compare_iff,
      Int.compare_eq_eq.mpr rfl]
  · rw [if_neg merged, compareNumbers_of_not_merged merged, Comparison.admits_compare_iff]

def largestSigned : Integer :=
  ⟨0x7FFFFFFFFFFFFFFF, by decide, by decide⟩

def afterLargestSigned : Integer :=
  ⟨0x8000000000000000, by decide, by decide⟩

/-- The integer that the next double is. -/
def nextDouble : Integer :=
  ⟨0x8000000000000800, by decide, by decide⟩

/-- Where a double lies between, the operand is told from the integer in the row. -/
theorem nextDouble_is_greater :
    let row : Json := .obj [("n", .num (.int nextDouble))]
    ∃ q, Query.filter {} .and (.leaf ⟨"n", "greaterThan", .int 0x7FFFFFFFFFFFFFFF⟩) = .ok q ∧
      row ∈ kept [row] q := by
  intro row
  obtain ⟨⟨operand, q, read, added, keeps⟩, -⟩ := integers_compare_exactly_unless_merged
    nextDouble largestSigned .and "n" "greaterThan" (c := .greater) (by decide)
  cases read
  refine ⟨q, added, (keeps row rfl [row]).mpr ⟨List.mem_singleton_self row, ?_⟩⟩
  have apart : ¬ Integer.Merged nextDouble largestSigned := by decide +kernel
  rw [if_neg apart]
  exact (by decide : largestSigned.val < nextDouble.val)

/-- The integer after the largest with a sign equals it, though it is greater. -/
theorem afterLargestSigned_equals_largestSigned :
    let row : Json := .obj [("n", .num (.int afterLargestSigned))]
    largestSigned.val < afterLargestSigned.val ∧
      ∃ operand q, Operand.ofJson? (.num (.int largestSigned)) = some operand ∧
        Query.filter {} .and (.leaf ⟨"n", "equal", operand⟩) = .ok q ∧ row ∈ kept [row] q := by
  refine ⟨by decide, _, _, rfl, rfl, List.mem_filter.mpr ⟨List.mem_singleton_self _, ?_⟩⟩
  decide +kernel

end Memory

end DataGrid
