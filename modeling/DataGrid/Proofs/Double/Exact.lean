import DataGrid.Proofs.Double.Numeral

namespace DataGrid.Double

theorem IsNearest.abs_sub_le {x : ℚ} {y : Finite} (nearest : IsNearest x (.finite y)) (z : Finite) :
    |y.value - x| ≤ |z.value - x| := by
  cases nearest with
  | finite _ closest => exact closest z

theorem IsNearest.le_value {x : ℚ} {y z : Finite} (nearest : IsNearest x (.finite y))
    (le : z.value ≤ x) : z.value ≤ y.value := by
  have nearer := nearest.abs_sub_le z
  by_contra below
  rw [abs_of_nonpos (sub_nonpos.mpr le), abs_of_nonpos (by linarith)] at nearer
  linarith

theorem IsNearest.value_le {x : ℚ} {y z : Finite} (nearest : IsNearest x (.finite y))
    (le : x ≤ z.value) : y.value ≤ z.value := by
  have nearer := nearest.abs_sub_le z
  by_contra above
  rw [abs_of_nonneg (sub_nonneg.mpr le), abs_of_nonneg (by linarith)] at nearer
  linarith

theorem IsNearest.value_eq {x : ℚ} {y z : Finite} (nearest : IsNearest x (.finite y))
    (same : z.value = x) : y.value = x :=
  le_antisymm (same ▸ nearest.value_le same.ge) (same ▸ nearest.le_value same.le)

theorem IsNearest.exists_finite {x : ℚ} {y : Double} (nearest : IsNearest x y) (small : |x| < limit) :
    ∃ z, y = .finite z := by
  cases nearest with
  | finite => exact ⟨_, rfl⟩
  | infinite large => exact absurd small (not_lt.mpr large)

theorem Finite.value_of_positive {x : Finite} (sign : x.negative = false) :
    x.value = x.units / one := by
  rw [value, sign, signed, if_neg Bool.false_ne_true, Int.cast_natCast]

theorem Finite.value_of_negative {x : Finite} (sign : x.negative = true) :
    x.value = -(x.units / one) := by
  rw [value, sign, signed, if_pos rfl, Int.cast_neg, Int.cast_natCast, neg_div]

theorem Finite.size_nonneg (x : Finite) : (0 : ℚ) ≤ x.units / one :=
  div_nonneg (Nat.cast_nonneg _) one_cast_pos.le

theorem Finite.negative_eq_false {x : Finite} (positive : 0 < x.value) : x.negative = false := by
  by_contra negative
  rw [value_of_negative (Bool.eq_true_of_not_eq_false negative)] at positive
  exact absurd (neg_pos.mp positive) (not_lt.mpr x.size_nonneg)

theorem Finite.abs_value_lt_limit (x : Finite) : |x.value| < limit := by
  have fits : nearestUnits x.units 1 < overflow := by
    rw [nearestUnits_of_dvd x.representable.2]
    exact x.representable.1
  have size := (nearestUnits_lt_overflow_iff x.units Nat.one_pos).mp fits
  rw [Nat.cast_one, one_mul] at size
  rw [value, abs_div, abs_signed, abs_of_pos one_cast_pos]
  exact size

theorem isNearest_self (x : Finite) : IsNearest x.value (.finite x) :=
  .finite x.abs_value_lt_limit fun z => by
    rw [sub_self, abs_zero]
    exact abs_nonneg _

theorem signed_natAbs_mul (i : ℤ) (n : Nat) : signed (i < 0) (i.natAbs * n) = i * n := by
  unfold signed
  by_cases negative : i < 0 <;> simp only [negative, decide_true, decide_false, if_true, if_false,
    Bool.false_eq_true, Int.natCast_mul]
  · rw [Int.ofNat_natAbs_of_nonpos negative.le, Int.neg_mul, Int.neg_neg]
  · rw [Int.natAbs_of_nonneg (not_lt.mp negative)]

theorem isNearest_ofInt (i : ℤ) : IsNearest i (ofInt i) := by
  have fraction : (i : ℚ) = signed (i < 0) (i.natAbs * one) / ((1 : Nat) * one) := by
    rw [signed_natAbs_mul, Nat.cast_one, one_mul, Int.cast_mul, Int.cast_natCast,
      mul_div_cancel_right₀ _ one_cast_pos.ne']
  rw [fraction]
  exact isNearest_ofUnits _ _ Nat.one_pos

theorem representable_mul_two_pow {m k : Nat} (short : m ≤ 2 ^ 53) (small : k ≤ 970) :
    Representable (m * 2 ^ k * one) := by
  constructor
  · have bits : 53 + k < 1024 := by omega
    have size : m * 2 ^ k ≤ 2 ^ (53 + k) := by
      rw [Nat.pow_add]
      exact Nat.mul_le_mul_right _ short
    exact (Nat.mul_le_mul_right one size).trans_lt (two_pow_mul_one_lt_overflow bits)
  · have power : m * 2 ^ k * one = m * Nat.pow 2 (k + 1074) := by
      unfold one
      generalize 1074 = g
      rw [Nat.pow_eq, Nat.pow_eq, Nat.pow_add, Nat.mul_assoc]
    rw [power]
    exact grid_dvd_of_le short (k + 1074)

/-- An integer of at most 53 bits but for zeros at its end is a double. -/
theorem exists_value_eq_mul_two_pow (negative : Bool) {m k : Nat} (short : m ≤ 2 ^ 53)
    (small : k ≤ 970) : ∃ z : Finite, z.value = signed negative (m * 2 ^ k) := by
  refine ⟨⟨negative, m * 2 ^ k * one, representable_mul_two_pow short small⟩, ?_⟩
  rw [Finite.value, div_eq_iff one_cast_pos.ne', signed_mul, Int.cast_mul, Int.cast_natCast]

theorem exists_value_eq_natCast {n : Nat} (short : n ≤ 2 ^ 53) : ∃ z : Finite, z.value = n := by
  obtain ⟨z, hz⟩ := exists_value_eq_mul_two_pow false (k := 0) short (Nat.zero_le _)
  exact ⟨z, by simpa [signed] using hz⟩

theorem exists_value_eq_two_pow {k : Nat} (small : k ≤ 970) : ∃ z : Finite, z.value = 2 ^ k := by
  obtain ⟨z, hz⟩ := exists_value_eq_mul_two_pow false Nat.one_le_two_pow small
  exact ⟨z, by simpa [signed] using hz⟩

theorem Finite.exists_value_eq_mul {y : Finite} {k : Nat} (large : 2 ^ (52 + k) ≤ y.value) :
    ∃ m : Nat, y.value = m * 2 ^ k := by
  have unit := one_cast_pos
  have positive := negative_eq_false ((pow_pos two_pos _).trans_le large)
  rw [value_of_positive positive, le_div_iff₀ unit] at large
  have dvd : 2 ^ k * one ∣ y.units := by
    refine dvd_trans ?_ y.representable.2
    have size : 2 ^ (52 + k) * one ≤ y.units := by
      generalize one = u at large ⊢
      exact_mod_cast large
    unfold one at size ⊢
    generalize 1074 = g at size
    rw [Nat.pow_eq, ← Nat.pow_add] at size
    rw [Nat.pow_eq, Nat.pow_eq, ← Nat.pow_add]
    have nonzero : y.units ≠ 0 := Nat.ne_of_gt ((Nat.two_pow_pos _).trans_le size)
    have log : 52 + k + g ≤ y.units.log2 := (Nat.le_log2 nonzero).mpr size
    refine Nat.pow_dvd_pow 2 ?_
    unfold gridOf
    omega
  obtain ⟨m, hm⟩ := dvd
  refine ⟨m, ?_⟩
  rw [value_of_positive positive, hm, div_eq_iff unit.ne', Nat.cast_mul, Nat.cast_mul, Nat.cast_pow, Nat.cast_ofNat]
  generalize (one : ℚ) = u
  ring

end DataGrid.Double
