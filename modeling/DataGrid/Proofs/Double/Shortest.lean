import DataGrid.Double.Shortest
import DataGrid.Proofs.Double.Exact
import Mathlib.Algebra.Order.Floor.Semifield
import Mathlib.Data.Rat.Floor

namespace DataGrid.Double

/-- Units as a fraction of one. -/
def size (units : Nat) : ℚ :=
  units / one

theorem size_nonneg (units : Nat) : 0 ≤ size units :=
  div_nonneg (Nat.cast_nonneg _) one_cast_pos.le

theorem size_pos {units : Nat} (some : units ≠ 0) : 0 < size units :=
  div_pos (Nat.cast_pos.mpr (Nat.pos_of_ne_zero some)) one_cast_pos

theorem ten_zpow_pos (k : ℤ) : (0 : ℚ) < 10 ^ k :=
  zpow_pos (by norm_num) k

theorem ten_zpow_lt_iff {j k : ℤ} : (10 : ℚ) ^ j < 10 ^ k ↔ j < k :=
  zpow_lt_zpow_iff_right₀ (by norm_num)

theorem ten_zpow_le_iff {j k : ℤ} : (10 : ℚ) ^ j ≤ 10 ^ k ↔ j ≤ k :=
  zpow_le_zpow_iff_right₀ (by norm_num)

namespace Decimal

def value (d : Decimal) : ℚ :=
  d.digits * 10 ^ d.place

def exponent (d : Decimal) : ℤ :=
  d.place + (Nat.toDigits 10 d.digits).length - 1

theorem exponent_eq (d : Decimal) :
    d.exponent = d.place + (Nat.toDigits 10 d.digits).length - 1 :=
  rfl

theorem value_eq_abs (d : Decimal) : d.value = |Numeral.value ⟨false, d.digits, d.place⟩| := by
  rw [Numeral.value, abs_mul, abs_signed, abs_of_pos (ten_zpow_pos _), value]

theorem value_lt (d : Decimal) : d.value < 10 ^ (d.exponent + 1) := by
  have bound := Numeral.abs_value_lt ⟨false, d.digits, d.place⟩
  have exponents : d.exponent + 1 = (Nat.toDigits 10 d.digits).length + d.place := by
    unfold exponent
    omega
  rwa [value_eq_abs, exponents]

theorem le_value {d : Decimal} (some : d.digits ≠ 0) : 10 ^ d.exponent ≤ d.value := by
  have bound := Numeral.le_abs_value (x := ⟨false, d.digits, d.place⟩) some
  have exponents : d.exponent = (Nat.toDigits 10 d.digits).length + d.place - 1 := by
    unfold exponent
    omega
  rwa [value_eq_abs, exponents]

theorem exponent_lt {d : Decimal} {k : ℤ} (some : d.digits ≠ 0) (below : d.value < 10 ^ k) :
    d.exponent < k :=
  ten_zpow_lt_iff.mp ((le_value some).trans_lt below)

theorem le_exponent {d : Decimal} {k : ℤ} (above : 10 ^ k ≤ d.value) : k ≤ d.exponent :=
  Int.lt_add_one_iff.mp (ten_zpow_lt_iff.mp (above.trans_lt d.value_lt))

theorem value_dropZero (d : Decimal) : d.dropZero.value = d.value := by
  unfold dropZero
  split
  · next zero =>
    have digits : (d.digits : ℚ) = (d.digits / 10 : Nat) * 10 := by
      exact_mod_cast (Nat.div_mul_cancel (Nat.dvd_of_mod_eq_zero zero)).symm
    rw [value, value, digits, zpow_add_one₀ (by norm_num)]
    ring
  · rfl

theorem length_toDigits_div {n : Nat} (zero : n % 10 = 0) (some : n ≠ 0) :
    (Nat.toDigits 10 n).length = (Nat.toDigits 10 (n / 10)).length + 1 := by
  rw [Nat.toDigits_of_base_le (by decide) (by omega), List.length_append, List.length_singleton]

theorem exponent_dropZero {d : Decimal} (some : d.digits ≠ 0) : d.dropZero.exponent = d.exponent := by
  unfold dropZero
  split
  · next zero =>
    unfold exponent
    rw [length_toDigits_div zero some]
    push_cast
    ring
  · rfl

theorem le_place_dropZero (d : Decimal) : d.place ≤ d.dropZero.place := by
  unfold dropZero
  split
  · exact Int.le_of_lt (Int.lt_succ d.place)
  · exact Int.le_refl _

theorem value_eq_div (d : Decimal) : d.value =
    (d.digits * Nat.pow 10 d.place.toNat : Nat) / (Nat.pow 10 (-d.place).toNat : Nat) := by
  rw [value, zpow_eq_div, ← mul_div_assoc, Nat.cast_mul]
  simp only [Nat.pow_eq, Nat.cast_pow, Nat.cast_ofNat]

theorem le_value_iff (d : Decimal) (n : Nat) :
    (n : ℚ) / (4 * one) ≤ d.value ↔
      n * Nat.pow 10 (-d.place).toNat ≤ d.digits * Nat.pow 10 d.place.toNat * (4 * one) := by
  have unit : (0 : ℚ) < 4 * one := mul_pos (by norm_num) one_cast_pos
  have power : (0 : ℚ) < (Nat.pow 10 (-d.place).toNat : Nat) :=
    Nat.cast_pos.mpr (Nat.pow_pos (by decide))
  rw [value_eq_div, div_le_div_iff₀ unit power]
  generalize one = u
  exact_mod_cast Iff.rfl

theorem value_le_iff (d : Decimal) (n : Nat) :
    d.value ≤ (n : ℚ) / (4 * one) ↔
      d.digits * Nat.pow 10 d.place.toNat * (4 * one) ≤ n * Nat.pow 10 (-d.place).toNat := by
  have unit : (0 : ℚ) < 4 * one := mul_pos (by norm_num) one_cast_pos
  have power : (0 : ℚ) < (Nat.pow 10 (-d.place).toNat : Nat) :=
    Nat.cast_pos.mpr (Nat.pow_pos (by decide))
  rw [value_eq_div, div_le_div_iff₀ power unit]
  generalize one = u
  exact_mod_cast Iff.rfl

end Decimal

theorem gap_le_units {units : Nat} (onGrid : OnGrid units) (some : units ≠ 0) :
    2 ^ gridOf units ≤ units :=
  Nat.le_of_dvd (Nat.pos_of_ne_zero some) onGrid

namespace Span

theorem le_value_of_contains {s : Span} {d : Decimal} (h : s.contains d = true) :
    (s.low : ℚ) / (4 * one) ≤ d.value := by
  rw [Decimal.le_value_iff]
  unfold contains at h
  dsimp only at h
  split at h
  · rw [Bool.and_eq_true, decide_eq_true_eq] at h
    exact h.1
  · rw [Bool.and_eq_true, decide_eq_true_eq] at h
    exact Nat.le_of_lt h.1

theorem value_le_of_contains {s : Span} {d : Decimal} (h : s.contains d = true) :
    d.value ≤ (s.high : ℚ) / (4 * one) := by
  rw [Decimal.value_le_iff]
  unfold contains at h
  dsimp only at h
  split at h
  · rw [Bool.and_eq_true, decide_eq_true_eq, decide_eq_true_eq] at h
    exact h.2
  · rw [Bool.and_eq_true, decide_eq_true_eq, decide_eq_true_eq] at h
    exact Nat.le_of_lt h.2

theorem contains_of_lt {s : Span} {d : Decimal} (low : (s.low : ℚ) / (4 * one) < d.value)
    (high : d.value < (s.high : ℚ) / (4 * one)) : s.contains d = true := by
  rw [← not_le, Decimal.value_le_iff, Nat.not_le] at low
  rw [← not_le, Decimal.le_value_iff, Nat.not_le] at high
  unfold contains
  dsimp only
  split
  · rw [Bool.and_eq_true, decide_eq_true_eq, decide_eq_true_eq]
    exact ⟨Nat.le_of_lt low, Nat.le_of_lt high⟩
  · rw [Bool.and_eq_true, decide_eq_true_eq, decide_eq_true_eq]
    exact ⟨low, high⟩

theorem high_around (units : Nat) : (around units).high = 4 * units + 2 * 2 ^ gridOf units :=
  rfl

theorem le_low_around (units : Nat) : 4 * units ≤ (around units).low + 2 * 2 ^ gridOf units := by
  unfold around
  dsimp only
  rw [Nat.pow_eq]
  split <;> omega

/-- A span goes down by a part in 2⁵⁴ at least. -/
theorem low_around_le {units : Nat} (onGrid : OnGrid units) (some : units ≠ 0) :
    2 ^ 52 * (around units).low + units ≤ 2 ^ 52 * (4 * units) := by
  have short := lt_two_pow_mul_gap units
  have gap := gap_le_units onGrid some
  unfold around
  dsimp only
  simp only [Nat.pow_eq]
  split <;> omega

end Span

def gap (units : Nat) : ℚ :=
  2 ^ gridOf units / one

theorem size_mul_one (units : Nat) : size units * one = units :=
  div_mul_cancel₀ _ one_cast_pos.ne'

theorem gap_mul_one (units : Nat) : gap units * one = 2 ^ gridOf units :=
  div_mul_cancel₀ _ one_cast_pos.ne'

theorem abs_sub_le_of_contains {units : Nat} {d : Decimal}
    (h : (Span.around units).contains d = true) : |d.value - size units| ≤ gap units / 2 := by
  have unit := one_cast_pos
  have scale : (0 : ℚ) < 4 * one := mul_pos (by norm_num) unit
  have low := Span.le_value_of_contains h
  have high := Span.value_le_of_contains h
  have below : (4 * units : ℚ) ≤ (Span.around units).low + 2 * 2 ^ gridOf units := by
    exact_mod_cast Span.le_low_around units
  rw [div_le_iff₀ scale] at low
  rw [Span.high_around, le_div_iff₀ scale] at high
  push_cast at high
  rw [← size_mul_one units, ← gap_mul_one units] at below high
  generalize (one : ℚ) = u at unit low below high
  rw [abs_sub_le_iff]
  constructor
  · apply le_of_mul_le_mul_right _ unit
    linarith
  · apply le_of_mul_le_mul_right _ unit
    linarith

/-- What is as near to a number as a part in 2⁵⁴ rounds to it. -/
theorem contains_of_abs_sub_lt {units : Nat} {d : Decimal} (onGrid : OnGrid units)
    (some : units ≠ 0) (near : |d.value - size units| * 2 ^ 54 < size units) :
    (Span.around units).contains d = true := by
  have unit := one_cast_pos
  have scale : (0 : ℚ) < 4 * one := mul_pos (by norm_num) unit
  have below : 2 ^ 52 * ((Span.around units).low : ℚ) + units ≤ 2 ^ 52 * (4 * units) := by
    exact_mod_cast Span.low_around_le onGrid some
  have above : (units : ℚ) < 2 ^ 53 * 2 ^ gridOf units := by exact_mod_cast lt_two_pow_mul_gap units
  have low : size units * 2 ^ 54 - size units < d.value * 2 ^ 54 := by
    have side := mul_le_mul_of_nonneg_right (neg_abs_le (d.value - size units))
      (by positivity : (0 : ℚ) ≤ 2 ^ 54)
    linarith
  have high : d.value * 2 ^ 54 < size units * 2 ^ 54 + size units := by
    have side := mul_le_mul_of_nonneg_right (le_abs_self (d.value - size units))
      (by positivity : (0 : ℚ) ≤ 2 ^ 54)
    linarith
  replace low := mul_lt_mul_of_pos_right low unit
  replace high := mul_lt_mul_of_pos_right high unit
  rw [← size_mul_one units] at below above
  refine Span.contains_of_lt ((div_lt_iff₀ scale).mpr ?_) ((lt_div_iff₀ scale).mpr ?_)
  · generalize (one : ℚ) = u at *
    linarith
  · rw [Span.high_around]
    push_cast
    rw [← size_mul_one units]
    generalize (one : ℚ) = u at *
    linarith

theorem one_le_ten_pow : (one : ℚ) ≤ 10 ^ 400 := by
  have exponents : 1074 ≤ 3 * 400 := by decide
  rw [one_eq]
  generalize 1074 = a at exponents
  exact two_pow_le_ten_pow exponents

theorem magnitude_eq (units : Nat) : magnitude units =
    ((Nat.toDigits 10 (units * Nat.pow 10 400 / one)).length : ℤ) - 1 - (400 : Nat) := by
  unfold magnitude
  omega

theorem ten_zpow_magnitude_le {units : Nat} (some : units ≠ 0) :
    10 ^ magnitude units ≤ size units := by
  have unit := one_cast_pos
  have scale : one ≤ 10 ^ 400 := by exact_mod_cast one_le_ten_pow
  rw [magnitude_eq, size]
  generalize 400 = k at scale
  have large : one ≤ units * Nat.pow 10 k :=
    scale.trans (Nat.le_mul_of_pos_left _ (Nat.pos_of_ne_zero some))
  have parts := Nat.div_mul_le_self (units * Nat.pow 10 k) one
  have positive : 0 < units * Nat.pow 10 k / one := Nat.div_pos large one_pos
  generalize units * Nat.pow 10 k / one = n at parts positive
  have digits : 0 < (Nat.toDigits 10 n).length := Nat.length_toDigits_pos
  have first : 10 ^ ((Nat.toDigits 10 n).length - 1) ≤ n :=
    (pow_le_iff_lt_length_toDigits positive).mpr (Nat.sub_one_lt_of_lt digits)
  have exponent : ((Nat.toDigits 10 n).length : ℤ) - 1 = ((Nat.toDigits 10 n).length - 1 : Nat) := by
    omega
  have bound : 10 ^ ((Nat.toDigits 10 n).length - 1) * one ≤ units * 10 ^ k :=
    (Nat.mul_le_mul_right one first).trans parts
  rw [exponent, zpow_sub₀ (by norm_num), zpow_natCast, zpow_natCast,
    div_le_div_iff₀ (by positivity) unit]
  generalize one = u at bound
  exact_mod_cast bound

theorem size_lt_ten_zpow (units : Nat) : size units < 10 ^ (magnitude units + 1) := by
  have unit := one_cast_pos
  have exponent : magnitude units + 1 =
      (Nat.toDigits 10 (units * Nat.pow 10 400 / one)).length - (400 : Nat) := by
    rw [magnitude_eq]
    omega
  rw [exponent, size]
  generalize 400 = k
  have parts := Nat.lt_div_mul_add (a := units * Nat.pow 10 k) one_pos
  generalize units * Nat.pow 10 k / one = n at parts
  have last : n + 1 ≤ 10 ^ (Nat.toDigits 10 n).length := lt_pow_length_toDigits n
  have bound : units * 10 ^ k < 10 ^ (Nat.toDigits 10 n).length * one := by
    refine parts.trans_le ?_
    rw [← Nat.succ_mul]
    exact Nat.mul_le_mul_right one last
  rw [zpow_sub₀ (by norm_num), zpow_natCast, zpow_natCast, div_lt_div_iff₀ unit (by positivity)]
  generalize one = u at bound
  exact_mod_cast bound

theorem magnitude_lt {units : Nat} {k : ℤ} (some : units ≠ 0) (below : size units < 10 ^ k) :
    magnitude units < k :=
  ten_zpow_lt_iff.mp ((ten_zpow_magnitude_le some).trans_lt below)

theorem le_magnitude {units : Nat} {k : ℤ} (above : 10 ^ k ≤ size units) : k ≤ magnitude units :=
  Int.lt_add_one_iff.mp (ten_zpow_lt_iff.mp (above.trans_lt (size_lt_ten_zpow units)))

def quotient (units : Nat) (place : ℤ) : Nat :=
  units * Nat.pow 10 (-place).toNat / (one * Nat.pow 10 place.toNat)

theorem size_div_ten_zpow (units : Nat) (place : ℤ) : size units / 10 ^ place =
    (units * Nat.pow 10 (-place).toNat : Nat) / (one * Nat.pow 10 place.toNat : Nat) := by
  rw [size, zpow_eq_div, div_div_div_eq]
  generalize one = u
  simp only [Nat.pow_eq]
  push_cast
  rfl

theorem quotient_eq_floor (units : Nat) (place : ℤ) :
    quotient units place = ⌊size units / 10 ^ place⌋₊ := by
  rw [size_div_ten_zpow, Nat.floor_div_eq_div]
  rfl

/-- The last decimal of a place that is not above a number. -/
def Decimal.below (units : Nat) (place : ℤ) : Decimal :=
  ⟨quotient units place, place⟩

def Decimal.above (units : Nat) (place : ℤ) : Decimal :=
  ⟨quotient units place + 1, place⟩

theorem value_below_le (units : Nat) (place : ℤ) : (Decimal.below units place).value ≤ size units := by
  have scale := ten_zpow_pos place
  have floor := Nat.floor_le (div_nonneg (size_nonneg units) scale.le)
  rw [← quotient_eq_floor, le_div_iff₀ scale] at floor
  exact floor

theorem value_above (units : Nat) (place : ℤ) :
    (Decimal.above units place).value = (Decimal.below units place).value + 10 ^ place := by
  unfold Decimal.value Decimal.above Decimal.below
  push_cast
  ring

theorem lt_value_above (units : Nat) (place : ℤ) : size units < (Decimal.above units place).value := by
  have scale := ten_zpow_pos place
  have floor := Nat.lt_floor_add_one (size units / 10 ^ place)
  rw [← quotient_eq_floor, div_lt_iff₀ scale] at floor
  unfold Decimal.value Decimal.above
  push_cast
  exact floor

theorem two_mul_size_sub (units : Nat) (place : ℤ) :
    2 * size units - ((Decimal.below units place).value + (Decimal.above units place).value) =
      ((2 * (units * Nat.pow 10 (-place).toNat % (one * Nat.pow 10 place.toNat)) : Nat) -
        (one * Nat.pow 10 place.toNat : Nat)) / (one * Nat.pow 10 place.toNat : Nat) * 10 ^ place := by
  have scale := ten_zpow_pos place
  have fraction := size_div_ten_zpow units place
  have positive : 0 < one * Nat.pow 10 place.toNat := Nat.mul_pos one_pos (Nat.pow_pos (by decide))
  rw [div_eq_iff scale.ne'] at fraction
  rw [value_above, Decimal.value, Decimal.below, quotient, fraction]
  generalize units * Nat.pow 10 (-place).toNat = num
  generalize one * Nat.pow 10 place.toNat = den at positive
  have den_pos : (0 : ℚ) < den := Nat.cast_pos.mpr positive
  have parts : (den * (num / den : Nat) + (num % den : Nat) : ℚ) = num := by
    exact_mod_cast Nat.div_add_mod num den
  rw [← parts]
  push_cast
  field_simp
  ring

/-- Against half of the divisor the rest lies as the number lies against the middle of its decimals. -/
theorem compare_rest (units : Nat) (place : ℤ) :
    compare (2 * (units * Nat.pow 10 (-place).toNat % (one * Nat.pow 10 place.toNat)))
        (one * Nat.pow 10 place.toNat) =
      compare (2 * size units)
        ((Decimal.below units place).value + (Decimal.above units place).value) := by
  have scale := ten_zpow_pos place
  have middle := two_mul_size_sub units place
  have positive : 0 < one * Nat.pow 10 place.toNat := Nat.mul_pos one_pos (Nat.pow_pos (by decide))
  generalize (Decimal.below units place).value + (Decimal.above units place).value = sum at *
  generalize units * Nat.pow 10 (-place).toNat % (one * Nat.pow 10 place.toNat) = rest at *
  generalize one * Nat.pow 10 place.toNat = den at *
  have den_pos : (0 : ℚ) < den := Nat.cast_pos.mpr positive
  rcases Nat.lt_trichotomy (2 * rest) den with less | same | more
  · have below : ((2 * rest : Nat) - den : ℚ) < 0 := sub_neg.mpr (Nat.cast_lt.mpr less)
    rw [compare_lt_iff_lt.mpr less, eq_comm, compare_lt_iff_lt, ← sub_neg, middle]
    exact mul_neg_of_neg_of_pos (div_neg_of_neg_of_pos below den_pos) scale
  · rw [same, sub_self, zero_div, zero_mul, sub_eq_zero] at middle
    rw [compare_eq_iff_eq.mpr same, middle, compare_eq_iff_eq.mpr rfl]
  · have above : (0 : ℚ) < (2 * rest : Nat) - den := sub_pos.mpr (Nat.cast_lt.mpr more)
    rw [compare_gt_iff_gt.mpr more, eq_comm, compare_gt_iff_gt, ← sub_pos, middle]
    exact mul_pos (div_pos above den_pos) scale

section
variable {tie : Tie} {units : Nat} {place : ℤ} {d : Decimal}

/-- The decimal that is taken of the two of a place next to a number: the one that rounds to it, of
two such the nearer one, and of two equally near the one that the tie says. -/
inductive Taken (tie : Tie) (units : Nat) (place : ℤ) : Option Decimal → Prop
  | neither :
    (Span.around units).contains (.below units place) = false →
    (Span.around units).contains (.above units place) = false → Taken tie units place none
  | below :
    (Span.around units).contains (.below units place) = true →
    ((Span.around units).contains (.above units place) = true →
      2 * size units < (Decimal.below units place).value + (Decimal.above units place).value) →
    Taken tie units place (some (.below units place))
  | above :
    (Span.around units).contains (.above units place) = true →
    ((Span.around units).contains (.below units place) = true →
      (Decimal.below units place).value + (Decimal.above units place).value < 2 * size units) →
    Taken tie units place (some (.above units place))
  | half :
    (Span.around units).contains (.below units place) = true →
    (Span.around units).contains (.above units place) = true →
    2 * size units = (Decimal.below units place).value + (Decimal.above units place).value →
    Taken tie units place
      (some (if tie = .even ∧ quotient units place % 2 = 0 then .below units place
        else .above units place))

theorem taken_shortestAt (tie : Tie) (units : Nat) (place : ℤ) :
    Taken tie units place (shortestAt tie units place) := by
  unfold shortestAt
  dsimp only
  split
  · next low high => exact .below low fun other => absurd (high.symm.trans other) Bool.false_ne_true
  · next low high => exact .above high fun other => absurd (low.symm.trans other) Bool.false_ne_true
  · next low high => exact .neither low high
  · next low high =>
    split
    · next side =>
      rw [compare_rest, compare_lt_iff_lt] at side
      exact .below low fun _ => side
    · next side =>
      rw [compare_rest, compare_gt_iff_gt] at side
      exact .above high fun _ => side
    · next side =>
      rw [compare_rest, compare_eq_iff_eq] at side
      have half : Taken tie units place _ := .half low high side
      cases tie with
      | up => exact half
      | even =>
        simp only [true_and] at half
        exact half

theorem shortestAt_isSome_iff : (shortestAt tie units place).isSome ↔
    (Span.around units).contains (.below units place) = true ∨
      (Span.around units).contains (.above units place) = true := by
  have taken := taken_shortestAt tie units place
  generalize shortestAt tie units place = o at taken
  cases taken with
  | neither low high => simp [low, high]
  | below low => simp [low]
  | above high => simp [high]
  | half low => simp [low]

theorem of_shortestAt (found : shortestAt tie units place = some d) :
    (Span.around units).contains d = true ∧
      (d = .below units place ∨ d = .above units place) := by
  have taken := taken_shortestAt tie units place
  rw [found] at taken
  cases taken with
  | below low => exact ⟨low, .inl rfl⟩
  | above high => exact ⟨high, .inr rfl⟩
  | half low high =>
    split
    · exact ⟨low, .inl rfl⟩
    · exact ⟨high, .inr rfl⟩

/-- Ties that are broken in two ways give one decimal, or two that the number is half way between, of
which the even one is below it. -/
theorem shortestAt_up_or_even {u e : Decimal} (up : shortestAt .up units place = some u)
    (even : shortestAt .even units place = some e) :
    u = e ∨ u = .above units place ∧ e = .below units place ∧ e.digits % 2 = 0 ∧
      2 * size units = e.value + u.value := by
  have up_taken := taken_shortestAt .up units place
  have even_taken := taken_shortestAt .even units place
  rw [up] at up_taken
  rw [even] at even_taken
  cases up_taken with
  | below low near =>
    cases even_taken with
    | below => exact .inl rfl
    | above high far => exact absurd (near high) (far low).not_gt
    | half _ high middle => exact absurd middle (near high).ne
  | above high near =>
    cases even_taken with
    | below low far => exact absurd (near low) (far high).not_gt
    | above => exact .inl rfl
    | half low _ middle => exact absurd middle (near low).ne'
  | half low high middle =>
    cases even_taken with
    | below _ far => exact absurd middle (far high).ne
    | above _ far => exact absurd middle (far low).ne'
    | half =>
      rw [if_neg (by simp)]
      split
      · next even => exact .inr ⟨rfl, rfl, even.2, middle⟩
      · exact .inl rfl

/-- Among the decimals of seventeen digits one is near enough. -/
theorem isSome_shortestAt_last (tie : Tie) (onGrid : OnGrid units) (some : units ≠ 0) :
    (shortestAt tie units (magnitude units - 16)).isSome := by
  have low := value_below_le units (magnitude units - 16)
  have high := lt_value_above units (magnitude units - 16)
  have step := value_above units (magnitude units - 16)
  have large := ten_zpow_magnitude_le some
  have fine : (10 : ℚ) ^ (magnitude units - 16) * 10 ^ 16 = 10 ^ magnitude units := by
    rw [zpow_sub₀ (by norm_num), zpow_ofNat, div_mul_cancel₀ _ (by norm_num)]
  have scale := ten_zpow_pos (magnitude units - 16)
  rw [← fine] at large
  rw [shortestAt_isSome_iff]
  rcases le_total (size units - (Decimal.below units (magnitude units - 16)).value)
    ((Decimal.above units (magnitude units - 16)).value - size units) with near | near
  · left
    apply contains_of_abs_sub_lt onGrid some
    rw [abs_sub_comm, abs_of_nonneg (sub_nonneg.mpr low)]
    linarith
  · right
    apply contains_of_abs_sub_lt onGrid some
    rw [abs_of_pos (sub_pos.mpr high)]
    linarith

end

theorem findSome?_range {α : Type} {f : Nat → Option α} {k n : Nat} {a : α} (lt : n < k)
    (found : f n = some a) (none_before : ∀ m < n, f m = none) :
    (List.range k).findSome? f = some a := by
  induction k with
  | zero => cases lt
  | succ k ih =>
    rw [List.range_succ, List.findSome?_append]
    rcases Nat.lt_succ_iff_lt_or_eq.mp lt with before | rfl
    · rw [ih before, Option.some_or]
    · have none_found : (List.range n).findSome? f = none :=
        List.findSome?_eq_none_iff.mpr fun m hm => none_before m (List.mem_range.mp hm)
      rw [none_found, Option.none_or, List.findSome?_singleton, found]

/-- The digits that the shortest decimals of a number have after the first are the least that some
decimal near enough has. -/
theorem exists_shortest_eq {units : Nat} (onGrid : OnGrid units) (some : units ≠ 0) :
    ∃ n : Nat, n ≤ 16 ∧
      (∀ m : Nat, m < n → ∀ tie, shortestAt tie units (magnitude units - m) = none) ∧
      ∀ tie, ∃ d, shortestAt tie units (magnitude units - n) = .some d ∧
        shortest tie units = d.dropZero := by
  have same (tie : Tie) (place : ℤ) :
      (shortestAt tie units place).isSome ↔ (shortestAt .even units place).isSome := by
    rw [shortestAt_isSome_iff, shortestAt_isSome_iff]
  have last : ∃ n : Nat, (shortestAt .even units (magnitude units - n)).isSome :=
    ⟨16, isSome_shortestAt_last .even onGrid some⟩
  have before (m : Nat) (hm : m < Nat.find last) (tie : Tie) :
      shortestAt tie units (magnitude units - m) = none := by
    rw [← Option.not_isSome_iff_eq_none, same]
    exact Nat.find_min last hm
  have least : Nat.find last ≤ 16 := Nat.find_min' last (isSome_shortestAt_last .even onGrid some)
  refine ⟨Nat.find last, least, before, fun tie => ?_⟩
  obtain ⟨d, found⟩ := Option.isSome_iff_exists.mp ((same tie _).mpr (Nat.find_spec last))
  refine ⟨d, found, ?_⟩
  unfold shortest
  rw [if_neg some]
  dsimp only
  rw [findSome?_range (Nat.lt_succ_of_le least) found fun m hm => before m hm tie]

theorem ten_zpow_le_value_below {units : Nat} (some : units ≠ 0) (n : Nat) :
    10 ^ magnitude units ≤ (Decimal.below units (magnitude units - n)).value := by
  have scale := ten_zpow_pos (magnitude units - n)
  have power : (10 : ℚ) ^ magnitude units = (10 ^ n : Nat) * 10 ^ (magnitude units - n) := by
    rw [Nat.cast_pow, Nat.cast_ofNat, ← zpow_natCast, ← zpow_add₀ (by norm_num), add_sub_cancel]
  have large := ten_zpow_magnitude_le some
  rw [power] at large ⊢
  have digits : 10 ^ n ≤ quotient units (magnitude units - n) := by
    rw [quotient_eq_floor]
    exact Nat.le_floor ((le_div_iff₀ scale).mpr large)
  exact mul_le_mul_of_nonneg_right (Nat.cast_le.mpr digits) scale.le

theorem value_above_le_ten_zpow (units n : Nat) :
    (Decimal.above units (magnitude units - n)).value ≤ 10 ^ (magnitude units + 1) := by
  have scale := ten_zpow_pos (magnitude units - n)
  have power : (10 : ℚ) ^ (magnitude units + 1) =
      (10 ^ (n + 1) : Nat) * 10 ^ (magnitude units - n) := by
    rw [Nat.cast_pow, Nat.cast_ofNat, ← zpow_natCast, ← zpow_add₀ (by norm_num)]
    congr 1
    omega
  have small := size_lt_ten_zpow units
  rw [power] at small ⊢
  have digits : quotient units (magnitude units - n) + 1 ≤ 10 ^ (n + 1) := by
    rw [quotient_eq_floor, Nat.succ_le_iff, Nat.floor_lt' (by positivity)]
    exact (div_lt_iff₀ scale).mpr small
  exact mul_le_mul_of_nonneg_right (Nat.cast_le.mpr digits) scale.le

/-- What the rounding and the first digit of a number say of its shortest decimal. -/
structure Represents (units : Nat) (d : Decimal) : Prop where
  near : |d.value - size units| ≤ gap units / 2
  low : 10 ^ magnitude units ≤ d.value
  high : d.value ≤ 10 ^ (magnitude units + 1)

theorem Represents.digits_ne_zero {units : Nat} {d : Decimal} (h : Represents units d) :
    d.digits ≠ 0 := by
  intro zero
  have low := h.low
  rw [Decimal.value, zero, Nat.cast_zero, zero_mul] at low
  exact absurd (ten_zpow_pos _) (not_lt.mpr low)

theorem represents_of_shortestAt {tie : Tie} {units n : Nat} {d : Decimal} (some : units ≠ 0)
    (found : shortestAt tie units (magnitude units - n) = .some d) : Represents units d := by
  obtain ⟨contained, next⟩ := of_shortestAt found
  have low := ten_zpow_le_value_below some n
  have high := value_above_le_ten_zpow units n
  have step := value_above units (magnitude units - n)
  have scale := ten_zpow_pos (magnitude units - n)
  refine ⟨abs_sub_le_of_contains contained, ?_, ?_⟩
  · rcases next with rfl | rfl <;> linarith
  · rcases next with rfl | rfl <;> linarith

theorem represents_shortest (tie : Tie) {units : Nat} (onGrid : OnGrid units) (some : units ≠ 0) :
    Represents units (shortest tie units) := by
  obtain ⟨n, -, -, found⟩ := exists_shortest_eq onGrid some
  obtain ⟨d, at_place, eq⟩ := found tie
  have bounds := represents_of_shortestAt some at_place
  rw [eq]
  exact ⟨d.value_dropZero ▸ bounds.near, d.value_dropZero ▸ bounds.low, d.value_dropZero ▸ bounds.high⟩

end DataGrid.Double
