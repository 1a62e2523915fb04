import DataGrid.Proofs.Double.Rounding
import Mathlib.Algebra.Order.Group.Unbundled.Abs
import Mathlib.Data.Rat.Cast.Order
import Mathlib.Tactic.FieldSimp
import Mathlib.Tactic.GCongr
import Mathlib.Tactic.Linarith
import Mathlib.Tactic.Positivity
import Mathlib.Tactic.Ring

namespace DataGrid.Double

theorem divHalfEven_error (num : Nat) {den : Nat} (positive : 0 < den) :
    2 * (((divHalfEven num den * den : Nat) : ℤ) - num).natAbs ≤ den := by
  have parts : num / den * den + num % den = num := Nat.div_add_mod' num den
  have rest : num % den < den := Nat.mod_lt num positive
  have next : (num / den + 1) * den = num / den * den + den := Nat.succ_mul _ _
  unfold divHalfEven
  dsimp only
  split
  · next less =>
    rw [Nat.compare_eq_lt] at less
    omega
  · next half =>
    rw [Nat.compare_eq_eq] at half
    rcases Nat.mod_two_eq_zero_or_one (num / den) with even | odd
    · rw [even, Nat.add_zero]
      omega
    · rw [odd]
      omega
  · next more =>
    rw [Nat.compare_eq_gt] at more
    omega

theorem divHalfEven_nearest (num : Nat) {den : Nat} (positive : 0 < den) (k : Nat) :
    (((divHalfEven num den * den : Nat) : ℤ) - num).natAbs ≤ (((k * den : Nat) : ℤ) - num).natAbs := by
  have error := divHalfEven_error num positive
  -- any other multiple is a whole step away
  rcases Nat.lt_trichotomy k (divHalfEven num den) with below | rfl | above
  · have step : (k + 1) * den ≤ divHalfEven num den * den := Nat.mul_le_mul_right den below
    rw [Nat.succ_mul] at step
    omega
  · exact Nat.le_refl _
  · have step : (divHalfEven num den + 1) * den ≤ k * den := Nat.mul_le_mul_right den above
    rw [Nat.succ_mul] at step
    omega

/-- Units that no finer grid is needed for. -/
def OnGrid (units : Nat) : Prop :=
  2 ^ gridOf units ∣ units

theorem onGrid_zero : OnGrid 0 :=
  Nat.dvd_zero _

/-- Below the numbers of one grid lies a number of this grid, above all finer ones. -/
theorem two_pow_le_of_gridOf_lt {num den units : Nat}
    (finer : gridOf units < gridOf (num / den)) :
    units ≤ 2 ^ 52 * 2 ^ gridOf (num / den) ∧ 2 ^ 52 * 2 ^ gridOf (num / den) * den ≤ num := by
  have doubled := two_mul_two_pow_le finer
  have below := lt_two_pow_mul_gap units
  have above := two_pow_mul_gap_le (Nat.zero_lt_of_lt finer)
  constructor
  · omega
  · exact (Nat.mul_le_mul_right den above).trans (Nat.div_mul_le_self num den)

theorem nearestUnits_mul (num den : Nat) :
    nearestUnits num den * den =
      divHalfEven num (den * 2 ^ gridOf (num / den)) * (den * 2 ^ gridOf (num / den)) := by
  unfold nearestUnits
  rw [Nat.pow_eq]
  ring

theorem nearestUnits_error (num : Nat) {den : Nat} (positive : 0 < den) :
    2 * (((nearestUnits num den * den : Nat) : ℤ) - num).natAbs ≤
      den * 2 ^ gridOf (num / den) := by
  rw [nearestUnits_mul]
  exact divHalfEven_error num (Nat.mul_pos positive (Nat.two_pow_pos _))

theorem nearestUnits_nearest (num : Nat) {den units : Nat} (positive : 0 < den)
    (onGrid : OnGrid units) :
    (((nearestUnits num den * den : Nat) : ℤ) - num).natAbs ≤
      (((units * den : Nat) : ℤ) - num).natAbs := by
  -- among the multiples of the gap that the quotient asks for there is nothing nearer
  have among (k : Nat) : (((nearestUnits num den * den : Nat) : ℤ) - num).natAbs ≤
      (((k * 2 ^ gridOf (num / den) * den : Nat) : ℤ) - num).natAbs := by
    have gap : 0 < den * 2 ^ gridOf (num / den) := Nat.mul_pos positive (Nat.two_pow_pos _)
    have nearest := divHalfEven_nearest num gap k
    have right : k * 2 ^ gridOf (num / den) * den = k * (den * 2 ^ gridOf (num / den)) := by ring
    rw [nearestUnits_mul, right]
    exact nearest
  rcases Nat.lt_or_ge (gridOf units) (gridOf (num / den)) with finer | coarse
  · obtain ⟨below, above⟩ := two_pow_le_of_gridOf_lt finer
    have scaled : units * den ≤ 2 ^ 52 * 2 ^ gridOf (num / den) * den :=
      Nat.mul_le_mul_right den below
    have := among (2 ^ 52)
    omega
  · obtain ⟨k, hk⟩ := (Nat.pow_dvd_pow 2 coarse).trans onGrid
    rw [Nat.mul_comm] at hk
    rw [hk]
    exact among k

/-- A half is rounded up to an even number, so what stays below that stays below the half. -/
theorem divHalfEven_lt_iff (num : Nat) {den k : Nat} (positive : 0 < den) (even : k % 2 = 0) :
    divHalfEven num den < k ↔ 2 * num + den < 2 * k * den := by
  have parts : num / den * den + num % den = num := Nat.div_add_mod' num den
  have rest : num % den < den := Nat.mod_lt num positive
  have next : (num / den + 1) * den = num / den * den + den := Nat.succ_mul _ _
  rw [Nat.mul_assoc]
  rcases Nat.lt_or_ge (num / den) k with below | above
  · rcases Nat.lt_or_eq_of_le (Nat.succ_le_of_lt below) with far | near
    · have scaled : (num / den + 2) * den ≤ k * den := Nat.mul_le_mul_right den far
      have up := divHalfEven_le num den
      rw [Nat.add_mul] at scaled
      omega
    · have scaled : k * den = (num / den + 1) * den := by rw [← near]
      unfold divHalfEven
      dsimp only
      split
      · next less =>
        rw [Nat.compare_eq_lt] at less
        omega
      · next half =>
        rw [Nat.compare_eq_eq] at half
        omega
      · next more =>
        rw [Nat.compare_eq_gt] at more
        omega
  · have scaled : k * den ≤ num / den * den := Nat.mul_le_mul_right den above
    have low := div_le_divHalfEven num den
    omega

theorem nearestUnits_lt_two_pow_iff (num : Nat) {den c : Nat} (positive : 0 < den) :
    nearestUnits num den < 2 ^ 53 * 2 ^ c ↔ 2 * num + den * 2 ^ c < 2 * 2 ^ 53 * (den * 2 ^ c) := by
  have gap : 0 < 2 ^ c := Nat.two_pow_pos c
  have double : 2 ^ 53 * 2 ^ c = 2 * (2 ^ 52 * 2 ^ c) := by ring
  rcases Nat.lt_trichotomy (gridOf (num / den)) c with finer | same | coarser
  · -- below the last binade nothing gets that far
    have half := two_mul_two_pow_le finer
    have upper : nearestUnits num den ≤ 2 ^ 53 * 2 ^ gridOf (num / den) := nearestUnits_le num den
    have scaled : num < 2 ^ 53 * 2 ^ gridOf (num / den) * den :=
      (Nat.div_lt_iff_lt_mul positive).mp (lt_two_pow_mul_gap _)
    have bound : 2 * (2 ^ 53 * 2 ^ gridOf (num / den) * den) ≤ 2 ^ 53 * (den * 2 ^ c) := by
      calc 2 * (2 ^ 53 * 2 ^ gridOf (num / den) * den)
          = 2 ^ 53 * (den * (2 * 2 ^ gridOf (num / den))) := by ring
        _ ≤ 2 ^ 53 * (den * 2 ^ c) := by gcongr
    have unit : 0 < den * 2 ^ c := Nat.mul_pos positive gap
    refine iff_of_true ?_ ?_
    · omega
    · omega
  · rw [← divHalfEven_lt_iff num (Nat.mul_pos positive gap) (by decide)]
    have split : nearestUnits num den = divHalfEven num (den * 2 ^ c) * 2 ^ c := by
      rw [← same]
      rfl
    rw [split]
    exact Nat.mul_lt_mul_right gap
  · have coarse := Nat.zero_lt_of_lt coarser
    have doubled := two_mul_two_pow_le coarser
    have lower : 2 ^ 52 * 2 ^ gridOf (num / den) ≤ nearestUnits num den := le_nearestUnits coarse
    have large : 2 ^ 53 * 2 ^ c ≤ num / den := by
      have above := two_pow_mul_gap_le coarse
      omega
    have scaled : 2 ^ 53 * 2 ^ c * den ≤ num := (Nat.le_div_iff_mul_le positive).mp large
    refine iff_of_false ?_ ?_
    · omega
    · rw [Nat.mul_assoc 2, Nat.mul_comm den, ← Nat.mul_assoc (2 ^ 53)]
      have unit : 0 < 2 ^ c * den := Nat.mul_pos gap positive
      omega

theorem signed_zero (negative : Bool) : signed negative 0 = 0 := by
  cases negative <;> rfl

theorem signed_mul (negative : Bool) (m n : Nat) :
    signed negative (m * n) = signed negative m * n := by
  unfold signed
  rw [Int.natCast_mul, ite_mul, Int.neg_mul]

theorem signed_neg_iff (negative : Bool) {n : Nat} (some : 0 < n) :
    signed negative n < 0 ↔ negative = true := by
  unfold signed
  cases negative
  · simp
  · simpa using some

theorem abs_signed (negative : Bool) (n : Nat) : |(signed negative n : ℚ)| = n := by
  unfold signed
  cases negative <;> simp

def Finite.value (x : Finite) : ℚ :=
  signed x.negative x.units / one

/-- Half a gap above the largest finite number. -/
def limit : ℚ :=
  2 ^ 1024 - 2 ^ 970

/-- The number that a fraction is rounded to: no finite one is nearer, and what is not below the
limit is infinite. -/
inductive IsNearest (x : ℚ) : Double → Prop
  | finite {y : Finite} :
    |x| < limit → (∀ z : Finite, |y.value - x| ≤ |z.value - x|) → IsNearest x (.finite y)
  | infinite {negative : Bool} :
    limit ≤ |x| → (negative = true ↔ x < 0) → IsNearest x (.infinite negative)

theorem signed_nearest (negative : Bool) (num : Nat) {den : Nat} (positive : 0 < den)
    (z : Finite) :
    (signed negative (nearestUnits num den) * den - signed negative num).natAbs ≤
      (signed z.negative z.units * den - signed negative num).natAbs := by
  have same := nearestUnits_nearest num positive z.representable.2
  have zero := nearestUnits_nearest num positive onGrid_zero
  unfold signed
  -- across zero nothing is nearer than zero
  cases negative <;> cases z.negative <;>
    simp only [Bool.false_eq_true, if_true, if_false, Int.neg_mul] <;> omega

theorem one_cast_pos : (0 : ℚ) < one :=
  Nat.cast_pos.mpr one_pos

theorem value_sub_eq (x : Finite) (num : ℤ) {den : Nat} (positive : 0 < den) :
    |x.value - num / (den * one)| =
      ((signed x.negative x.units * den - num).natAbs : ℚ) / (den * one) := by
  have unit := one_cast_pos
  unfold Finite.value
  generalize one = u at unit
  have den_pos : (0 : ℚ) < den := Nat.cast_pos.mpr positive
  have whole : (0 : ℚ) < den * u := mul_pos den_pos unit
  have difference : (signed x.negative x.units : ℚ) / u - num / (den * u) =
      ((signed x.negative x.units * den - num : ℤ) : ℚ) / (den * u) := by
    push_cast
    field_simp
  rw [difference, abs_div, abs_of_pos whole, Nat.cast_natAbs, Int.cast_abs]

theorem overflow_eq : overflow = 2 ^ 53 * 2 ^ 2045 := by
  have exponents : 2098 = 53 + 2045 := rfl
  unfold overflow
  generalize 2098 = e at exponents
  generalize 2045 = f at exponents ⊢
  rw [exponents, Nat.pow_eq, Nat.pow_add]

theorem one_eq : (one : ℚ) = 2 ^ 1074 := by
  unfold one
  generalize 1074 = e
  rw [Nat.pow_eq, Nat.cast_pow, Nat.cast_ofNat]

theorem limit_mul_one : limit * one = 2 ^ 53 * 2 ^ 2045 - 2 ^ 2045 / 2 := by
  have first : 1024 + 1074 = 53 + 2045 := rfl
  have second : (2 : ℚ) ^ 2045 / 2 = 2 ^ (970 + 1074) := by
    rw [pow_succ _ (970 + 1074), mul_div_cancel_right₀ _ two_ne_zero]
  rw [one_eq, limit, sub_mul, ← pow_add, ← pow_add, first, pow_add, second]

theorem nearestUnits_lt_overflow_iff (num : Nat) {den : Nat} (positive : 0 < den) :
    nearestUnits num den < overflow ↔ (num : ℚ) / (den * one) < limit := by
  have den_pos : (0 : ℚ) < den := Nat.cast_pos.mpr positive
  have fraction : (num : ℚ) / (den * one) < limit ↔ num / den < limit * one := by
    rw [← div_div, div_lt_iff₀ one_cast_pos]
  rw [fraction, limit_mul_one, overflow_eq]
  generalize 2045 = c
  rw [nearestUnits_lt_two_pow_iff num positive, div_lt_iff₀ den_pos, ← Nat.cast_lt (α := ℚ)]
  push_cast
  generalize (2 : ℚ) ^ c = g
  constructor <;> intro h <;> linarith

theorem two_pow_le_limit {k : Nat} (small : k ≤ 970) : 2 ^ k ≤ limit := by
  have exponents : 1024 = 970 + 54 := rfl
  have power : (2 : ℚ) ^ k ≤ 2 ^ 970 := pow_le_pow_right₀ one_le_two small
  have positive : (0 : ℚ) < 2 ^ k := pow_pos two_pos k
  rw [limit, exponents, pow_add]
  generalize (2 : ℚ) ^ 970 = p at power ⊢
  generalize (2 : ℚ) ^ k = q at power positive ⊢
  linarith

theorem one_le_limit : 1 ≤ limit :=
  (pow_zero 2).symm.trans_le (two_pow_le_limit (Nat.zero_le _))

theorem limit_pos : 0 < limit :=
  zero_lt_one.trans_le one_le_limit

theorem isNearest_ofUnits (negative : Bool) (num : Nat) {den : Nat} (positive : 0 < den) :
    IsNearest (signed negative num / (den * one)) (ofUnits negative num den) := by
  have den_pos : (0 : ℚ) < den := Nat.cast_pos.mpr positive
  have whole : (0 : ℚ) < den * one := mul_pos den_pos one_cast_pos
  have size : |(signed negative num : ℚ) / (den * one)| = num / (den * one) := by
    rw [abs_div, abs_of_pos whole, abs_signed]
  by_cases fits : nearestUnits num den < overflow
  · rw [ofUnits, dif_pos fits]
    refine .finite (size ▸ (nearestUnits_lt_overflow_iff num positive).mp fits) fun z => ?_
    rw [value_sub_eq _ _ positive, value_sub_eq _ _ positive]
    exact div_le_div_of_nonneg_right (Nat.cast_le.mpr (signed_nearest negative num positive z))
      whole.le
  · have large : limit ≤ (num : ℚ) / (den * one) :=
      not_lt.mp fun small => fits ((nearestUnits_lt_overflow_iff num positive).mpr small)
    rw [ofUnits, dif_neg fits]
    have some : (0 : ℚ) < num := (div_pos_iff_of_pos_right whole).mp (limit_pos.trans_le large)
    refine .infinite (size ▸ large) ?_
    rw [div_lt_iff₀ whole, zero_mul, Int.cast_lt_zero, signed_neg_iff negative (Nat.cast_pos.mp some)]

theorem two_pow_mul_one_lt_overflow {k : Nat} (h : k < 1024) : 2 ^ k * one < overflow := by
  have exponents : 2098 = 1024 + 1074 := rfl
  unfold one overflow
  generalize 2098 = e at exponents
  generalize 1074 = f at exponents
  rw [exponents, Nat.pow_eq, Nat.pow_eq, ← Nat.pow_add]
  exact Nat.pow_lt_pow_right Nat.one_lt_two (Nat.add_lt_add_right h f)

theorem overflow_pos : 0 < overflow := by
  unfold overflow
  generalize 2098 = e
  exact Nat.two_pow_pos e

theorem representable_zero : Representable 0 :=
  ⟨overflow_pos, onGrid_zero⟩

theorem ofUnits_zero (negative : Bool) :
    ofUnits negative 0 1 = .finite ⟨negative, 0, representable_zero⟩ := by
  have none : nearestUnits 0 1 = 0 := rfl
  have fits : nearestUnits 0 1 < overflow := by
    rw [none]
    exact overflow_pos
  rw [ofUnits, dif_pos fits]
  simp only [none]

theorem gap_le_of_lt {n : Nat} (h : n < 2 ^ 64) : 2 ^ gridOf (n * one) ≤ 2048 * one := by
  have bits : 2048 = 2 ^ 11 := rfl
  have long : 41 ≤ 1074 := by decide
  unfold one
  generalize 1074 = g at long
  rw [bits, Nat.pow_eq, ← Nat.pow_add]
  refine Nat.pow_le_pow_right Nat.two_pos ?_
  unfold gridOf
  rcases Nat.eq_zero_or_pos n with rfl | some
  · simp
  · have nonzero : n * 2 ^ g ≠ 0 := Nat.ne_of_gt (Nat.mul_pos some (Nat.two_pow_pos g))
    have log : (n * 2 ^ g).log2 < 64 + g := by
      rw [Nat.log2_lt nonzero, Nat.pow_add]
      exact Nat.mul_lt_mul_of_pos_right h (Nat.two_pow_pos g)
    omega

theorem rankOfInt_error {i : ℤ} (h : i.natAbs < 2 ^ 64) :
    (rankOfInt i - i * one).natAbs ≤ 1024 * one := by
  have gap := gap_le_of_lt h
  have error := nearestUnits_error (i.natAbs * one) Nat.one_pos
  have upper := nearestUnits_le (i.natAbs * one) 1
  have limit : 2 ^ 64 * one < overflow := two_pow_mul_one_lt_overflow (by decide)
  unfold rankOfInt
  generalize one = u at gap error upper limit ⊢
  generalize overflow = o at limit ⊢
  rw [Nat.div_one, Nat.mul_one, Nat.one_mul] at error
  simp only [Nat.div_one, Nat.pow_eq] at upper
  have finite : nearestUnits (i.natAbs * u) 1 ≤ o := by omega
  rw [Nat.min_eq_left finite]
  rcases lt_or_ge i 0 with negative | positive
  · have size : ((i.natAbs * u : Nat) : ℤ) = -(i * u) := by
      rw [Int.natCast_mul, Int.ofNat_natAbs_of_nonpos negative.le, Int.neg_mul]
    simp only [signed, negative, decide_true, if_true]
    omega
  · have size : ((i.natAbs * u : Nat) : ℤ) = i * u := by
      rw [Int.natCast_mul, Int.natAbs_of_nonneg positive]
    simp only [signed, Int.not_lt.mpr positive, decide_false, Bool.false_eq_true, if_false]
    omega

end DataGrid.Double
