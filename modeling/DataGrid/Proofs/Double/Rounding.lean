import DataGrid.Double.Basic
import Mathlib.Algebra.Group.Nat.Defs

namespace DataGrid.Double

theorem div_le_divHalfEven (num den : Nat) : num / den ≤ divHalfEven num den := by
  unfold divHalfEven
  dsimp only
  split <;> omega

theorem divHalfEven_mono {m n : Nat} (h : m ≤ n) (den : Nat) :
    divHalfEven m den ≤ divHalfEven n den := by
  have quotients : m / den ≤ n / den := Nat.div_le_div_right h
  by_cases same : m / den = n / den
  · -- within one quotient the remainder decides, and it grows with the number
    have remainders : m % den ≤ n % den := by
      have hm := Nat.div_add_mod m den
      have hn := Nat.div_add_mod n den
      rw [same] at hm
      omega
    unfold divHalfEven
    dsimp only
    rw [same]
    split <;> split <;> simp only [Nat.compare_eq_lt, Nat.compare_eq_eq, Nat.compare_eq_gt] at * <;>
      omega
  · calc divHalfEven m den ≤ m / den + 1 := divHalfEven_le m den
      _ ≤ n / den := by omega
      _ ≤ divHalfEven n den := div_le_divHalfEven n den

theorem gridOf_mono {m n : Nat} (h : m ≤ n) : gridOf m ≤ gridOf n := by
  have logs : m.log2 ≤ n.log2 := by
    by_cases zero : m = 0
    · simp [zero]
    · exact (Nat.le_log2 (by omega)).mpr (Nat.le_trans (Nat.log2_self_le zero) h)
  unfold gridOf
  omega

theorem lt_two_pow_mul_gap (units : Nat) : units < 2 ^ 53 * 2 ^ gridOf units := by
  rw [← Nat.pow_add]
  apply Nat.lt_of_lt_of_le Nat.lt_log2_self
  apply Nat.pow_le_pow_right Nat.two_pos
  unfold gridOf
  omega

theorem two_pow_mul_gap_le {units : Nat} (coarse : 0 < gridOf units) :
    2 ^ 52 * 2 ^ gridOf units ≤ units := by
  have log : units.log2 = 52 + gridOf units := by
    unfold gridOf at coarse ⊢
    omega
  have nonzero : units ≠ 0 := by
    rintro rfl
    simp [gridOf] at coarse
  rw [← Nat.pow_add, ← log]
  exact Nat.log2_self_le nonzero

theorem two_mul_two_pow_le {a b : Nat} (finer : a < b) : 2 * 2 ^ a ≤ 2 ^ b := by
  rw [← Nat.pow_succ']
  exact Nat.pow_le_pow_right Nat.two_pos finer

theorem nearestUnits_le (num den : Nat) :
    nearestUnits num den ≤ Nat.pow 2 53 * Nat.pow 2 (gridOf (num / den)) :=
  Nat.mul_le_mul_right _ (significand_le num den)

/-- Past the finest grid all 53 bits are used. -/
theorem le_nearestUnits {num den : Nat} (coarse : 0 < gridOf (num / den)) :
    Nat.pow 2 52 * Nat.pow 2 (gridOf (num / den)) ≤ nearestUnits num den := by
  refine Nat.mul_le_mul_right _ (Nat.le_trans ?_ (div_le_divHalfEven _ _))
  rw [← Nat.div_div_eq_div_mul]
  exact (Nat.le_div_iff_mul_le (Nat.two_pow_pos _)).mpr (two_pow_mul_gap_le coarse)

theorem nearestUnits_mono {m n : Nat} (h : m ≤ n) (den : Nat) :
    nearestUnits m den ≤ nearestUnits n den := by
  have grids : gridOf (m / den) ≤ gridOf (n / den) := gridOf_mono (Nat.div_le_div_right h)
  by_cases same : gridOf (m / den) = gridOf (n / den)
  · unfold nearestUnits
    dsimp only
    rw [same]
    exact Nat.mul_le_mul_right _ (divHalfEven_mono h _)
  · have doubled : Nat.pow 2 53 * Nat.pow 2 (gridOf (m / den)) ≤
        Nat.pow 2 52 * Nat.pow 2 (gridOf (n / den)) := by
      simp only [Nat.pow_eq]
      rw [← Nat.pow_add, ← Nat.pow_add]
      exact Nat.pow_le_pow_right (by decide) (by omega)
    calc nearestUnits m den ≤ Nat.pow 2 53 * Nat.pow 2 (gridOf (m / den)) := nearestUnits_le m den
      _ ≤ Nat.pow 2 52 * Nat.pow 2 (gridOf (n / den)) := doubled
      _ ≤ nearestUnits n den := le_nearestUnits (by omega)

theorem rank?_ofUnits (negative : Bool) (num den : Nat) :
    (ofUnits negative num den).rank? =
      some (signed negative (min (nearestUnits num den) overflow)) := by
  unfold ofUnits
  split
  · next fits => rw [Nat.min_eq_left (Nat.le_of_lt fits)]; rfl
  · next large => rw [Nat.min_eq_right (Nat.le_of_not_lt large)]; rfl

/-- The place in the order that an integer takes when it is rounded. -/
def rankOfInt (i : Int) : Int :=
  signed (i < 0) (min (nearestUnits (i.natAbs * one) 1) overflow)

theorem rank?_ofInt (i : Int) : (ofInt i).rank? = some (rankOfInt i) :=
  rank?_ofUnits _ _ _

theorem rankOfInt_mono {i j : Int} (h : i ≤ j) : rankOfInt i ≤ rankOfInt j := by
  have sizes {a b : Nat} (le : a ≤ b) :
      min (nearestUnits (a * one) 1) overflow ≤ min (nearestUnits (b * one) 1) overflow := by
    have nearest := nearestUnits_mono (Nat.mul_le_mul_right one le) 1
    omega
  unfold rankOfInt signed
  by_cases hi : i < 0 <;> by_cases hj : j < 0 <;>
    simp only [hi, hj, decide_true, decide_false, if_true, if_false, Bool.false_eq_true]
  · -- below zero the larger integer has the smaller size
    have size := sizes (show j.natAbs ≤ i.natAbs by omega)
    exact Int.neg_le_neg (Int.ofNat_le.mpr size)
  · omega
  · omega
  · have size := sizes (show i.natAbs ≤ j.natAbs by omega)
    exact Int.ofNat_le.mpr size

theorem divHalfEven_of_dvd {num den : Nat} (positive : 0 < den) (h : den ∣ num) :
    divHalfEven num den = num / den := by
  have below : compare (2 * (num % den)) den = .lt := by
    rw [Nat.mod_eq_zero_of_dvd h]
    exact Nat.compare_eq_lt.mpr positive
  unfold divHalfEven
  dsimp only
  rw [below]

/-- What is on its own grid already is not rounded. -/
theorem nearestUnits_of_dvd {units : Nat} (whole : Nat.pow 2 (gridOf units) ∣ units) :
    nearestUnits units 1 = units := by
  have gap : 0 < Nat.pow 2 (gridOf units) := Nat.two_pow_pos _
  unfold nearestUnits
  dsimp only
  rw [Nat.div_one, Nat.one_mul, divHalfEven_of_dvd gap whole, Nat.div_mul_cancel whole]

theorem nearestUnits_of_le {n : Nat} (h : n ≤ Nat.pow 2 53) :
    nearestUnits (n * one) 1 = n * one := by
  refine nearestUnits_of_dvd ?_
  unfold one
  generalize 1074 = g
  exact grid_dvd_of_le h g

theorem one_pos : 0 < one := by
  unfold one
  generalize 1074 = g
  exact Nat.two_pow_pos g

theorem short_mul_one_le : Nat.pow 2 53 * one ≤ overflow := by
  have exponents : 53 + 1074 ≤ 2098 := by decide
  unfold one overflow
  generalize 1074 = b at exponents
  generalize 2098 = c at exponents
  simp only [Nat.pow_eq]
  rw [← Nat.pow_add]
  exact Nat.pow_le_pow_right (by decide) exponents

theorem rankOfInt_of_le {i : Int} (h : i.natAbs ≤ Nat.pow 2 53) : rankOfInt i = i * one := by
  have finite : i.natAbs * one ≤ overflow :=
    Nat.le_trans (Nat.mul_le_mul_right one h) short_mul_one_le
  unfold rankOfInt signed
  rw [nearestUnits_of_le h, Nat.min_eq_left finite, Int.natCast_mul]
  by_cases negative : i < 0 <;>
    simp only [negative, decide_true, decide_false, if_true, if_false, Bool.false_eq_true]
  · rw [Int.ofNat_natAbs_of_nonpos (by omega), Int.neg_mul, Int.neg_neg]
  · rw [Int.natAbs_of_nonneg (by omega)]

/-- Rounding tells an integer of at most 53 bits from every other. -/
theorem rankOfInt_lt {i j : Int} (h : i < j)
    (short : i.natAbs < Nat.pow 2 53 ∨ j.natAbs < Nat.pow 2 53) : rankOfInt i < rankOfInt j := by
  have bits : (Nat.pow 2 53 : Int) = 0x20000000000000 := by decide
  have positive : (0 : Int) < one := Int.natCast_pos.mpr one_pos
  rcases short with short | short
  · -- the larger one may be long, but is not below the first integer of 54 bits
    have exact_i := rankOfInt_of_le (i := i) (by omega)
    have exact_j := rankOfInt_of_le (i := min j (Nat.pow 2 53)) (by omega)
    have upper : rankOfInt (min j (Nat.pow 2 53)) ≤ rankOfInt j := rankOfInt_mono (by omega)
    have apart : i * one < min j (Nat.pow 2 53) * one :=
      Int.mul_lt_mul_of_pos_right (by omega) positive
    omega
  · have exact_j := rankOfInt_of_le (i := j) (by omega)
    have exact_i := rankOfInt_of_le (i := max i (-Nat.pow 2 53)) (by omega)
    have lower : rankOfInt i ≤ rankOfInt (max i (-Nat.pow 2 53)) := rankOfInt_mono (by omega)
    have apart : max i (-Nat.pow 2 53) * one < j * one :=
      Int.mul_lt_mul_of_pos_right (by omega) positive
    omega

end DataGrid.Double
