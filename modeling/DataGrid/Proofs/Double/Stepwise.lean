import DataGrid.Proofs.Double.Numeral

namespace DataGrid.Double

theorem divHalfEven_mul_right (num den : Nat) {k : Nat} (positive : 0 < k) :
    divHalfEven (num * k) (den * k) = divHalfEven num den := by
  have rest : compare (2 * (num % den * k)) (den * k) = compare (2 * (num % den)) den := by
    rw [← Nat.mul_assoc]
    rcases Nat.lt_trichotomy (2 * (num % den)) den with less | same | more
    · rw [Nat.compare_eq_lt.mpr less, Nat.compare_eq_lt]
      exact Nat.mul_lt_mul_of_pos_right less positive
    · rw [same, Nat.compare_eq_eq.mpr rfl, Nat.compare_eq_eq.mpr rfl]
    · rw [Nat.compare_eq_gt.mpr more, Nat.compare_eq_gt]
      exact Nat.mul_lt_mul_of_pos_right more positive
  unfold divHalfEven
  rw [Nat.mul_div_mul_right _ _ positive, Nat.mul_mod_mul_right, rest]

theorem nearestUnits_mul_right (num den : Nat) {k : Nat} (positive : 0 < k) :
    nearestUnits (num * k) (den * k) = nearestUnits num den := by
  unfold nearestUnits
  dsimp only
  rw [Nat.mul_div_mul_right _ _ positive, Nat.mul_right_comm, divHalfEven_mul_right _ _ positive]

theorem nearestUnits_nearestUnits (num den : Nat) :
    nearestUnits (nearestUnits num den) 1 = nearestUnits num den :=
  nearestUnits_of_dvd (grid_dvd_nearestUnits num den)

theorem ofUnits_congr (negative : Bool) {num den num' den' : Nat}
    (h : nearestUnits num den = nearestUnits num' den') :
    ofUnits negative num den = ofUnits negative num' den' := by
  unfold ofUnits
  simp only [h]

/-- The powers of ten whose powers of five have 53 bits at most are not rounded. -/
theorem powerOfTen_of_le {e : Nat} (small : e ≤ 22) : powerOfTen e = 10 ^ e * one := by
  have short : 5 ^ e ≤ Nat.pow 2 53 :=
    Nat.le_trans (Nat.pow_le_pow_right (by decide) small) (by decide)
  have factors : 10 ^ e * one = 5 ^ e * Nat.pow 2 (e + 1074) := by
    unfold one
    generalize 1074 = g
    rw [Nat.pow_eq, Nat.pow_eq, Nat.pow_add, ← Nat.mul_assoc, ← Nat.mul_pow]
  rw [powerOfTen, Nat.pow_eq, factors]
  exact nearestUnits_of_dvd (grid_dvd_of_le short _)

theorem dividedByTens_of_le (units : Nat) {e : Nat} (small : e ≤ 22) :
    dividedByTens units e = nearestUnits units (10 ^ e) := by
  rw [dividedByTens, if_pos (by omega), powerOfTen_of_le small, nearestUnits_mul_right _ _ one_pos]

theorem Numeral.toDouble_eq_ofUnits {x : Numeral} (short : x.significand ≤ Nat.pow 2 53)
    (small : x.exponent.natAbs ≤ 22) :
    x.toDouble = ofUnits x.negative (x.significand * 10 ^ x.exponent.toNat * one)
      (10 ^ (-x.exponent).toNat) := by
  have digits : (Nat.toDigits 10 x.significand).length ≤ 16 :=
    (Nat.length_toDigits_le_iff (by decide) (by decide)).mpr (Nat.lt_of_le_of_lt short (by decide))
  have some : 0 < (Nat.toDigits 10 x.significand).length := Nat.length_toDigits_pos
  unfold toDouble
  dsimp only
  split_ifs with zero large
  · have none : x.significand = 0 := by omega
    have power : 0 < 10 ^ (-x.exponent).toNat := Nat.pow_pos (by decide)
    rw [none, Nat.zero_mul, Nat.zero_mul]
    apply ofUnits_congr
    rw [← nearestUnits_mul_right 0 1 power, Nat.zero_mul, Nat.one_mul]
  · omega
  · rfl

/-- Worked out in rounded numbers, a numeral of at most 53 bits and with a small power of ten is
still the nearest number, since only its last step rounds. -/
theorem Numeral.stepwise_eq_toDouble {x : Numeral} (short : x.significand ≤ Nat.pow 2 53)
    (small : x.exponent.natAbs ≤ 22) : x.stepwise = x.toDouble := by
  have units : nearestUnits (x.significand * one) 1 = x.significand * one :=
    nearestUnits_of_le short
  rw [toDouble_eq_ofUnits short small]
  unfold stepwise
  dsimp only
  rw [units]
  split_ifs with divides multiplies
  · have power : (-x.exponent).toNat = x.exponent.natAbs := by omega
    have whole : x.exponent.toNat = 0 := by omega
    rw [dividedByTens_of_le _ small, power, whole, Nat.pow_zero, Nat.mul_one]
    exact ofUnits_congr x.negative (nearestUnits_nearestUnits _ _)
  · have power : x.exponent.toNat = x.exponent.natAbs := by omega
    have whole : (-x.exponent).toNat = 0 := by omega
    rw [powerOfTen_of_le small, power, whole, Nat.pow_zero]
    apply ofUnits_congr
    rw [Nat.mul_mul_mul_comm, ← Nat.mul_assoc, ← nearestUnits_mul_right _ 1 one_pos, Nat.one_mul]
  · omega
  · omega

/-- With sixteen digits and more it may miss the nearest number. -/
example : (Numeral.mk false 31245270191439438 (-15)).stepwise ≠
    (Numeral.mk false 31245270191439438 (-15)).toDouble := by
  decide +kernel

end DataGrid.Double
