import DataGrid.Fixture
import DataGrid.Memory.Table
import DataGrid.Proofs.Double.Rounding

namespace DataGrid

namespace Json.Number

def rank (n : Number) : Int :=
  n.toDouble.rank?.getD 0

theorem rank?_toDouble (n : Number) : n.toDouble.rank? = some n.rank := by
  cases n with
  | int i => rw [rank, toDouble, Double.rank?_ofInt, Option.getD_some]
  | real x => rfl

theorem compare?_toDouble (m n : Number) :
    m.toDouble.compare? n.toDouble = some (compare m.rank n.rank) := by
  unfold Double.compare?
  rw [rank?_toDouble, rank?_toDouble]

theorem toInt64?_eq_none_iff {i : Integer} :
    (Number.int i).toInt64? = none ↔ 0x8000000000000000 ≤ i.val := by
  rw [toInt64?]
  split <;> simp <;> omega

theorem toInt_of_toInt64? {n : Number} {x : Int64} (h : n.toInt64? = some x) :
    ∃ i : Integer, n = .int i ∧ i.val = x.toInt := by
  cases n with
  | real _ => cases h
  | int i =>
    rw [toInt64?] at h
    split at h
    · next fits =>
      cases h
      exact ⟨i, rfl, (Int64.toInt_ofInt_of_le i.lower fits).symm⟩
    · cases h

theorem rank_of_toInt64? {n : Number} {x : Int64} (h : n.toInt64? = some x) :
    n.rank = Double.rankOfInt x.toInt := by
  obtain ⟨i, rfl, hval⟩ := toInt_of_toInt64? h
  rw [rank, toDouble, Double.rank?_ofInt, Option.getD_some, hval]

/-- Two signed integers of 64 bits, the first the larger, and between them a number that is none
itself, of which nothing but their rounded places is seen, and these are one. -/
def RoundTogether (l m n : Number) : Prop :=
  ∃ x z : Int64, l.toInt64? = some x ∧ n.toInt64? = some z ∧ z < x ∧ m.toInt64? = none ∧
    l.toDouble.compare? m.toDouble = some .eq ∧ m.toDouble.compare? n.toDouble = some .eq

end Json.Number

namespace Memory

section
variable {l m n : Json.Number}

theorem compareNumbers_of_int64 {x y : Int64} (hx : m.toInt64? = some x)
    (hy : n.toInt64? = some y) : compareNumbers m n = compare x.toInt y.toInt := by
  unfold compareNumbers
  rw [hx, hy]

/-- But for two signed integers of 64 bits the rounded places decide. -/
theorem compareNumbers_of_rounded (h : m.toInt64? = none ∨ n.toInt64? = none) :
    compareNumbers m n = compare m.rank n.rank := by
  unfold compareNumbers
  rw [Json.Number.compare?_toDouble, Option.getD_some]
  split
  · next hx hy => simp [hx, hy] at h
  · rfl

theorem exists_int64_or_rounded (m n : Json.Number) :
    (∃ x y, m.toInt64? = some x ∧ n.toInt64? = some y) ∨
      m.toInt64? = none ∨ n.toInt64? = none := by
  cases m.toInt64? <;> cases n.toInt64? <;> simp

theorem compareNumbers_swap (m n : Json.Number) :
    compareNumbers n m = (compareNumbers m n).swap := by
  rcases exists_int64_or_rounded m n with ⟨x, y, hx, hy⟩ | rounded
  · rw [compareNumbers_of_int64 hx hy, compareNumbers_of_int64 hy hx, Int.compare_swap]
  · rw [compareNumbers_of_rounded rounded, compareNumbers_of_rounded rounded.symm,
      Int.compare_swap]

/-- Rounding brings numbers together, but never past each other. -/
theorem rank_le_of_isLE (h : (compareNumbers m n).isLE) : m.rank ≤ n.rank := by
  rcases exists_int64_or_rounded m n with ⟨x, y, hx, hy⟩ | rounded
  · rw [compareNumbers_of_int64 hx hy, Int.isLE_compare] at h
    rw [Json.Number.rank_of_toInt64? hx, Json.Number.rank_of_toInt64? hy]
    exact Double.rankOfInt_mono h
  · rw [compareNumbers_of_rounded rounded, Int.isLE_compare] at h
    exact h

theorem isLE_of_rank_lt (h : m.rank < n.rank) : (compareNumbers m n).isLE := by
  rcases exists_int64_or_rounded m n with ⟨x, y, hx, hy⟩ | rounded
  · rw [compareNumbers_of_int64 hx hy, Int.isLE_compare]
    rw [Json.Number.rank_of_toInt64? hx, Json.Number.rank_of_toInt64? hy] at h
    rcases Int.le_total x.toInt y.toInt with le | ge
    · exact le
    · have := Double.rankOfInt_mono ge
      omega
  · rw [compareNumbers_of_rounded rounded, Int.isLE_compare]
    omega

theorem rank_eq_of_roundTogether (h : Json.Number.RoundTogether l m n) :
    l.rank = m.rank ∧ m.rank = n.rank := by
  obtain ⟨_, _, _, _, _, _, hlm, hmn⟩ := h
  rw [Json.Number.compare?_toDouble, Option.some_inj] at hlm hmn
  exact ⟨Int.compare_eq_eq.mp hlm, Int.compare_eq_eq.mp hmn⟩

/-- Numbers keep their order over a third one, unless that is what two integers are rounded to. -/
theorem isLE_compareNumbers_iff (hlm : (compareNumbers l m).isLE)
    (hmn : (compareNumbers m n).isLE) :
    (compareNumbers l n).isLE ↔ ¬ Json.Number.RoundTogether l m n := by
  have first : l.rank ≤ m.rank := rank_le_of_isLE hlm
  have last : m.rank ≤ n.rank := rank_le_of_isLE hmn
  by_cases apart : l.rank < n.rank
  · refine iff_of_true (isLE_of_rank_lt apart) fun together => ?_
    have := rank_eq_of_roundTogether together
    omega
  · have equal : l.rank = m.rank ∧ m.rank = n.rank := by omega
    rcases exists_int64_or_rounded l n with ⟨x, z, hx, hz⟩ | rounded
    · rw [compareNumbers_of_int64 hx hz, Int.isLE_compare]
      cases hy : m.toInt64? with
      | some y =>
        rw [compareNumbers_of_int64 hx hy, Int.isLE_compare] at hlm
        rw [compareNumbers_of_int64 hy hz, Int.isLE_compare] at hmn
        refine iff_of_true (by omega) ?_
        rintro ⟨_, _, _, _, _, none, _⟩
        simp [hy] at none
      | none =>
        unfold Json.Number.RoundTogether
        simp [hx, hz, hy, Json.Number.compare?_toDouble, equal, Int64.lt_iff_toInt_lt]
    · refine iff_of_true ?_ ?_
      · rw [compareNumbers_of_rounded rounded, Int.isLE_compare]
        omega
      · rintro ⟨x, z, hx, hz, _⟩
        simp [hx, hz] at rounded

end

def compareSameKind : Option Json → Option Json → Ordering
  | some (.num m), some (.num n) => compareNumbers m n
  | some (.str s), some (.str t) => compare s t
  | some (.bool a), some (.bool b) => compare a b
  | _, _ => .eq

theorem compareValues_eq_then (a b : Option Json) :
    compareValues a b = (compare (kindRank a) (kindRank b)).then (compareSameKind a b) := by
  rcases a with _ | (_ | _ | _ | _ | _ | _) <;> rcases b with _ | (_ | _ | _ | _ | _ | _) <;> rfl

theorem compareSameKind_swap (a b : Option Json) :
    compareSameKind b a = (compareSameKind a b).swap := by
  unfold compareSameKind
  split
  · exact compareNumbers_swap _ _
  · exact Std.OrientedCmp.eq_swap
  · exact Std.OrientedCmp.eq_swap
  · split <;> simp_all

theorem compareValues_swap (a b : Option Json) :
    compareValues b a = (compareValues a b).swap := by
  rw [compareValues_eq_then, compareValues_eq_then, Ordering.swap_then, ← compareSameKind_swap,
    Nat.compare_swap]

theorem compareValues_self (a : Option Json) : compareValues a a = .eq := by
  have same : compareValues a a = (compareValues a a).swap := compareValues_swap a a
  cases h : compareValues a a <;> simp_all

/-- Of three values the outer two are integers that are rounded to the number in the middle. -/
def RoundTogether (a b c : Option Json) : Prop :=
  ∃ l m n, a = some (.num l) ∧ b = some (.num m) ∧ c = some (.num n) ∧
    Json.Number.RoundTogether l m n

theorem exists_bool {a : Option Json} (h : kindRank a = 1) : ∃ b, a = some (.bool b) := by
  rcases a with _ | (_ | b | _ | _ | _ | _) <;> simp [kindRank] at h
  exact ⟨b, rfl⟩

theorem exists_num {a : Option Json} (h : kindRank a = 2) : ∃ n, a = some (.num n) := by
  rcases a with _ | (_ | _ | n | _ | _ | _) <;> simp [kindRank] at h
  exact ⟨n, rfl⟩

theorem exists_str {a : Option Json} (h : kindRank a = 3) : ∃ s, a = some (.str s) := by
  rcases a with _ | (_ | _ | _ | s | _ | _) <;> simp [kindRank] at h
  exact ⟨s, rfl⟩

section
variable {a b c : Option Json}

theorem kindRank_of_roundTogether (h : RoundTogether a b c) :
    kindRank a = 2 ∧ kindRank b = 2 ∧ kindRank c = 2 := by
  obtain ⟨l, m, n, rfl, rfl, rfl, _⟩ := h
  exact ⟨rfl, rfl, rfl⟩

theorem roundTogether_num_iff {l m n : Json.Number} :
    RoundTogether (some (.num l)) (some (.num m)) (some (.num n)) ↔
      Json.Number.RoundTogether l m n := by
  simp [RoundTogether]

theorem isLE_compareSameKind_iff (ab : kindRank a = kindRank b) (bc : kindRank b = kindRank c)
    (hab : (compareSameKind a b).isLE) (hbc : (compareSameKind b c).isLE) :
    (compareSameKind a c).isLE ↔ ¬ RoundTogether a b c := by
  have other (h : kindRank a ≠ 2) : ¬ RoundTogether a b c :=
    fun together => h (kindRank_of_roundTogether together).1
  match a with
  | some (.num l) =>
    obtain ⟨m, rfl⟩ := exists_num ab.symm
    obtain ⟨n, rfl⟩ := exists_num bc.symm
    rw [roundTogether_num_iff]
    exact isLE_compareNumbers_iff hab hbc
  | some (.str s) =>
    obtain ⟨t, rfl⟩ := exists_str ab.symm
    obtain ⟨u, rfl⟩ := exists_str bc.symm
    have strings : (compare s u).isLE := Std.TransOrd.isLE_trans hab hbc
    exact iff_of_true strings (other (by simp [kindRank]))
  | some (.bool x) =>
    obtain ⟨y, rfl⟩ := exists_bool ab.symm
    obtain ⟨z, rfl⟩ := exists_bool bc.symm
    have booleans : (compare x z).isLE := Std.TransOrd.isLE_trans hab hbc
    exact iff_of_true booleans (other (by simp [kindRank]))
  | none | some .null | some (.arr _) | some (.obj _) =>
    exact iff_of_true rfl (other (by simp [kindRank]))

theorem isLE_compareValues_iff (hab : (compareValues a b).isLE) (hbc : (compareValues b c).isLE) :
    (compareValues a c).isLE ↔ ¬ RoundTogether a b c := by
  rw [compareValues_eq_then, Ordering.isLE_then_iff_or, Nat.compare_eq_lt, Nat.compare_eq_eq]
    at hab hbc ⊢
  by_cases same : kindRank a = kindRank b ∧ kindRank b = kindRank c
  · have within := isLE_compareSameKind_iff same.1 same.2
      (hab.resolve_left (by omega)).2 (hbc.resolve_left (by omega)).2
    rw [← within]
    constructor
    · intro h
      exact (h.resolve_left (by omega)).2
    · intro h
      exact .inr ⟨same.1.trans same.2, h⟩
  · refine iff_of_true (.inl (by omega)) fun together => ?_
    have := kindRank_of_roundTogether together
    omega

theorem compareValues_eq_eq_iff :
    compareValues a c = .eq ↔ (compareValues a c).isLE ∧ (compareValues c a).isLE := by
  rw [compareValues_swap a c]
  cases compareValues a c <;> decide

end

/-- The size of an integer value; any other value has none. -/
def intSize : Option Json → Nat
  | some (.num (.int i)) => i.val.natAbs
  | _ => 0

theorem long_of_roundTogether {a b c : Option Json} (h : RoundTogether a b c) :
    Nat.pow 2 53 ≤ intSize a ∧ Nat.pow 2 53 ≤ intSize c := by
  obtain ⟨l, m, n, rfl, rfl, rfl, x, z, hx, hz, less, hnone, hlm, hmn⟩ := h
  have ranks : l.rank = n.rank := by
    have := rank_eq_of_roundTogether ⟨x, z, hx, hz, less, hnone, hlm, hmn⟩
    omega
  rw [Json.Number.rank_of_toInt64? hx, Json.Number.rank_of_toInt64? hz] at ranks
  rw [Int64.lt_iff_toInt_lt] at less
  obtain ⟨i, rfl, hi⟩ := Json.Number.toInt_of_toInt64? hx
  obtain ⟨k, rfl, hk⟩ := Json.Number.toInt_of_toInt64? hz
  dsimp only [intSize]
  rw [hi, hk]
  by_cases short : z.toInt.natAbs < Nat.pow 2 53 ∨ x.toInt.natAbs < Nat.pow 2 53
  · have := Double.rankOfInt_lt less short
    omega
  · omega

/-- The order of values has all laws of a total preorder but one: between two integers of 64 bits,
the larger first, a number that both are rounded to equals either, and so one step leads back. It
takes integers of more than 53 bits. -/
theorem values_are_preordered_unless_rounded_together (a b c : Option Json) :
    compareValues a a = .eq ∧
    compareValues b a = (compareValues a b).swap ∧
    ((compareValues a b).isLE → (compareValues b c).isLE →
      ((compareValues a c).isLE ↔ ¬ RoundTogether a b c)) ∧
    (compareValues a b = .eq → compareValues b c = .eq →
      (compareValues a c = .eq ↔ ¬ RoundTogether a b c ∧ ¬ RoundTogether c b a)) ∧
    (RoundTogether a b c → Nat.pow 2 53 ≤ intSize a ∧ Nat.pow 2 53 ≤ intSize c) := by
  refine ⟨compareValues_self a, compareValues_swap a b, isLE_compareValues_iff, ?_,
    long_of_roundTogether⟩
  intro hab hbc
  rw [compareValues_eq_eq_iff] at hab hbc
  rw [compareValues_eq_eq_iff, isLE_compareValues_iff hab.1 hbc.1,
    isLE_compareValues_iff hbc.2 hab.2]

/-- The first integer of 54 bits; as a double it is the same number. -/
def evenInt : Json :=
  .ofInt64 9007199254740992

def evenDouble : Json :=
  .ofDouble (.ofInt 9007199254740992)

/-- No double is this number. -/
def oddInt : Json :=
  .ofInt64 9007199254740993

/-- Up to the odd integer the order holds. -/
theorem evenInt_before_oddInt :
    (compareValues (some evenInt) (some evenDouble)).isLE ∧
      (compareValues (some evenDouble) (some oddInt)).isLE ∧
      (compareValues (some evenInt) (some oddInt)).isLE := by
  have first : (compareValues (some evenInt) (some evenDouble)).isLE := by decide +kernel
  have last : (compareValues (some evenDouble) (some oddInt)).isLE := by decide +kernel
  refine ⟨first, last, ?_⟩
  apply ((values_are_preordered_unless_rounded_together _ _ _).2.2.1 first last).mpr
  rintro ⟨l, m, n, hl, _, hn, x, z, hx, hz, less, _⟩
  cases hl
  cases hn
  cases hx
  cases hz
  exact absurd less (by decide +kernel)

/-- Downwards it does not, and rows come in an order that no preorder gives: the odd integer goes
behind an even one that it was before, and stays before another. -/
theorem oddInt_equals_evenInt_through_evenDouble :
    compareValues (some oddInt) (some evenDouble) = .eq ∧
      compareValues (some evenDouble) (some evenInt) = .eq ∧
      compareValues (some oddInt) (some evenInt) = .gt ∧
      Fixture.ids (page
        ([(1, oddInt), (2, evenInt), (3, evenDouble), (4, evenInt)].map fun (id, value) =>
          Fixture.record id |> Fixture.withField "n" value)
        { orders := [⟨"n", .asc⟩] }) = [2, 1, 3, 4] := by
  refine ⟨?_, ?_, ?_, ?_⟩ <;> decide +kernel

end Memory

end DataGrid
