import DataGrid.Proofs.Double.Shortest

namespace DataGrid.Double

theorem Decimal.value_eq_natCast {d : Decimal} (whole : 0 ≤ d.place) :
    d.value = (d.digits * 10 ^ d.place.toNat : Nat) := by
  rw [value, ← Int.toNat_of_nonneg whole, zpow_natCast, Int.toNat_natCast]
  push_cast
  rfl

theorem gridOf_le_of_size_lt {units k : Nat} (some : units ≠ 0) (small : size units < 2 ^ k) :
    gridOf units ≤ k + 1021 := by
  have unit := one_cast_pos
  rw [size, div_lt_iff₀ unit, one_eq] at small
  have long : 1074 = 1021 + 53 := rfl
  unfold gridOf
  generalize 1074 = e at *
  have bits : units < 2 ^ (k + e) := by
    rw [Nat.pow_add]
    exact_mod_cast small
  have log := (Nat.log2_lt some).mpr bits
  omega

theorem size_eq_abs_value (x : Finite) : size x.units = |x.value| := by
  rw [Finite.value, abs_div, abs_signed, abs_of_pos one_cast_pos, size]

theorem exists_size_eq_of_large {x : Finite} (large : 2 ^ 52 ≤ size x.units) :
    ∃ n : Nat, size x.units = n := by
  obtain ⟨m, hm⟩ := Finite.exists_value_eq_mul (y := ⟨false, x.units, x.representable⟩) (k := 0)
    (by rwa [Finite.value_of_positive rfl])
  rw [Finite.value_of_positive rfl, pow_zero, mul_one] at hm
  exact ⟨m, hm⟩

theorem one_le_size {units n : Nat} (some : units ≠ 0) (whole : size units = n) :
    10 ^ (0 : ℤ) ≤ size units := by
  have positive : 0 < n := by
    rw [← Nat.cast_pos (α := ℚ), ← whole]
    exact size_pos some
  rw [zpow_zero, whole]
  exact_mod_cast positive

/-- A carry to one digit more only comes from an odd number. -/
theorem length_toDigits_succ {n : Nat} (even : n % 2 = 0) :
    (Nat.toDigits 10 (n + 1)).length = (Nat.toDigits 10 n).length := by
  have digits : 0 < (Nat.toDigits 10 n).length := Nat.length_toDigits_pos
  apply Nat.le_antisymm
  · have short := lt_pow_length_toDigits n
    rw [Nat.length_toDigits_le_iff (by decide) digits]
    obtain ⟨k, hk⟩ := Nat.exists_eq_succ_of_ne_zero digits.ne'
    rw [hk, Nat.pow_succ] at short ⊢
    omega
  · have larger := lt_pow_length_toDigits (n + 1)
    rw [Nat.length_toDigits_le_iff (by decide) Nat.length_toDigits_pos]
    omega

theorem exists_one_eq_mul : ∃ e, one = 2 ^ 69 * 2 ^ e := by
  refine ⟨1005, ?_⟩
  have exponents : 1074 = 69 + 1005 := rfl
  unfold one
  generalize 1074 = a at exponents
  generalize 1005 = b at exponents ⊢
  rw [exponents, Nat.pow_eq, Nat.pow_add]

/-- The last of the numbers with a gap of 2⁻⁶⁹ below 10⁻⁵ is more than half a gap away from it. -/
theorem half_step_below {k : Nat} (below : k * 10 ^ 5 < 2 ^ 69) :
    (2 * k + 1) * 10 ^ 5 < 2 * 2 ^ 69 := by
  have most : k ≤ 2 ^ 69 / 10 ^ 5 := (Nat.le_div_iff_mul_le (by decide)).mpr below.le
  have bound : 2 * k + 1 ≤ 2 * (2 ^ 69 / 10 ^ 5) + 1 := by omega
  exact (Nat.mul_le_mul_right _ bound).trans_lt (by decide)

section
variable {units : Nat} (onGrid : OnGrid units)
include onGrid

/-- Only the number itself is a multiple of its gap that is so near. -/
theorem eq_size_of_near {v : ℚ} {m : Nat} (on : v * one = (m * 2 ^ gridOf units : Nat))
    (near : |v - size units| ≤ gap units / 2) : v = size units := by
  have unit := one_cast_pos
  have power : (0 : ℚ) < 2 ^ gridOf units := by positivity
  obtain ⟨k, hk⟩ := onGrid
  have number : size units * one = k * 2 ^ gridOf units := by
    rw [size_mul_one]
    nth_rewrite 1 [hk]
    push_cast
    exact mul_comm _ _
  have distance : |(m : ℚ) - k| * 2 ^ gridOf units = |v - size units| * one := by
    have scaled {a b c : ℚ} (h : 0 < c) : |a - b| * c = |a * c - b * c| := by
      rw [← sub_mul, abs_mul, abs_of_pos h]
    rw [scaled power, scaled unit, on, number]
    push_cast
    rfl
  have half : |(m : ℚ) - k| * 2 ^ gridOf units ≤ 1 / 2 * 2 ^ gridOf units := by
    rw [distance, ← gap_mul_one]
    have := mul_le_mul_of_nonneg_right near unit.le
    linarith
  have same : m = k := by
    by_contra apart
    have step : 1 ≤ |(m : ℤ) - k| := Int.one_le_abs (sub_ne_zero.mpr (by exact_mod_cast apart))
    have step_cast : (1 : ℚ) ≤ |(m : ℚ) - k| := by exact_mod_cast step
    linarith [le_of_mul_le_mul_right half power]
  apply mul_right_cancel₀ unit.ne'
  rw [on, number, same]
  push_cast
  rfl

/-- An integer that a number rounds to is the number, if its gaps are not larger than a power of two
that divides the integer. -/
theorem value_eq_size_of_dvd {d : Decimal} {n c : Nat} (near : |d.value - size units| ≤ gap units / 2)
    (whole : d.value = n) (dvd : 2 ^ c ∣ n) (fine : gridOf units ≤ c + 1074) :
    d.value = size units := by
  obtain ⟨m, rfl⟩ := dvd
  refine eq_size_of_near onGrid (m := m * 2 ^ (c + 1074 - gridOf units)) ?_ near
  have powers : 2 ^ (c + 1074 - gridOf units) * 2 ^ gridOf units = 2 ^ (c + 1074) :=
    Nat.pow_sub_mul_pow 2 fine
  rw [Nat.mul_assoc, powers, whole, one_eq]
  generalize 1074 = e
  push_cast
  ring

theorem exists_size_eq_of_coarse (coarse : 1074 ≤ gridOf units) : ∃ n : Nat, size units = n := by
  have whole : one ∣ units := by
    apply dvd_trans _ onGrid
    unfold one
    generalize 1074 = e at coarse
    exact Nat.pow_dvd_pow 2 coarse
  obtain ⟨n, hn⟩ := whole
  refine ⟨n, ?_⟩
  rw [size, hn, Nat.cast_mul, mul_div_cancel_left₀ _ one_cast_pos.ne']

theorem isSome_shortestAt_ones (tie : Tie) (some : units ≠ 0) {n : Nat} (whole : size units = n) :
    (shortestAt tie units 0).isSome := by
  have same : (Decimal.below units 0).value = size units := by
    rw [Decimal.value, Decimal.below, quotient_eq_floor, zpow_zero, div_one, mul_one, whole,
      Nat.floor_natCast]
  rw [shortestAt_isSome_iff]
  left
  apply contains_of_abs_sub_lt onGrid some
  rw [same, sub_self, abs_zero, zero_mul]
  exact size_pos some

theorem place_nonneg_iff (tie : Tie) (some : units ≠ 0) :
    0 ≤ (shortest tie units).place ↔ ∃ n : Nat, size units = n := by
  constructor
  · intro nonneg
    rcases Nat.le_total 1074 (gridOf units) with coarse | fine
    · exact exists_size_eq_of_coarse onGrid coarse
    · have whole := Decimal.value_eq_natCast nonneg
      refine ⟨_, (value_eq_size_of_dvd onGrid (c := 0) (represents_shortest tie onGrid some).near
        whole (one_dvd _) ?_).symm.trans whole⟩
      rwa [Nat.zero_add]
  · rintro ⟨n, whole⟩
    obtain ⟨k, -, before, found⟩ := exists_shortest_eq onGrid some
    obtain ⟨d, at_place, eq⟩ := found tie
    have place : d.place = magnitude units - k := by
      rcases (of_shortestAt at_place).2 with rfl | rfl <;> rfl
    have top := le_magnitude (one_le_size some whole)
    rw [eq]
    refine le_trans ?_ d.le_place_dropZero
    by_contra negative
    rw [place] at negative
    -- the scan does not go past the ones
    have missed := before (magnitude units).toNat (by omega) tie
    rw [Int.toNat_of_nonneg top, sub_self] at missed
    have ones := isSome_shortestAt_ones onGrid tie some whole
    rw [missed] at ones
    cases ones

theorem value_shortest_lt (tie : Tie) (some : units ≠ 0) (small : size units < 10 ^ (16 : ℤ)) :
    (shortest tie units).value < 10 ^ (16 : ℤ) := by
  have bounds := represents_shortest tie onGrid some
  have most : (shortest tie units).value ≤ 10 ^ (16 : ℤ) :=
    bounds.high.trans (ten_zpow_le_iff.mpr (magnitude_lt some small))
  refine most.lt_of_ne fun same => ?_
  have whole : (shortest tie units).value = (10 ^ 16 : Nat) := by
    rw [same]
    norm_num
  have fine : gridOf units ≤ 16 + 1074 := by
    have := gridOf_le_of_size_lt some (k := 54) (small.trans (by norm_num))
    omega
  have exact := value_eq_size_of_dvd onGrid bounds.near whole (by decide) fine
  rw [← exact, same] at small
  exact lt_irrefl _ small

theorem ten_zpow_le_value_shortest (tie : Tie) (some : units ≠ 0) {k : ℤ}
    (large : 10 ^ k ≤ size units) : 10 ^ k ≤ (shortest tie units).value :=
  (ten_zpow_le_iff.mpr (le_magnitude large)).trans (represents_shortest tie onGrid some).low

theorem le_exponent_shortest (tie : Tie) (some : units ≠ 0) {k : ℤ} (large : 10 ^ k ≤ size units) :
    k ≤ (shortest tie units).exponent :=
  Decimal.le_exponent (ten_zpow_le_value_shortest onGrid tie some large)

theorem exponent_shortest_lt (tie : Tie) (some : units ≠ 0) (small : size units < 10 ^ (16 : ℤ)) :
    (shortest tie units).exponent < 16 :=
  Decimal.exponent_lt (represents_shortest tie onGrid some).digits_ne_zero
    (value_shortest_lt onGrid tie some small)

/-- No number below 10⁻⁵ has it within half a gap. -/
theorem room_below_lowest (small : units * 10 ^ 5 < one) :
    (2 * units + 2 ^ gridOf units) * 10 ^ 5 < 2 * one := by
  obtain ⟨e, split⟩ := exists_one_eq_mul
  rw [split] at small ⊢
  clear split
  have short := lt_two_pow_mul_gap units
  have positive : 0 < 2 ^ e := Nat.two_pow_pos e
  have fine : gridOf units ≤ e := by
    by_contra coarse
    have large := two_pow_mul_gap_le (Nat.zero_lt_of_lt (not_le.mp coarse))
    have doubled := two_mul_two_pow_le (not_le.mp coarse)
    omega
  obtain ⟨k, hk⟩ := onGrid
  rcases Nat.lt_or_eq_of_le fine with finer | same
  · -- all numbers of a finer grid lie far below
    have doubled := two_mul_two_pow_le finer
    clear hk small
    omega
  · rw [same] at hk ⊢
    rw [hk] at small ⊢
    have digits : k * 10 ^ 5 < 2 ^ 69 := by
      apply Nat.lt_of_mul_lt_mul_left (a := 2 ^ e)
      rw [← Nat.mul_assoc, Nat.mul_comm (2 ^ e) (2 ^ 69)]
      exact small
    calc (2 * (2 ^ e * k) + 2 ^ e) * 10 ^ 5 = (2 * k + 1) * 10 ^ 5 * 2 ^ e := by ring
      _ < 2 * 2 ^ 69 * 2 ^ e := Nat.mul_lt_mul_of_pos_right (half_step_below digits) positive
      _ = 2 * (2 ^ 69 * 2 ^ e) := Nat.mul_assoc ..

theorem value_shortest_lt_of_lt (tie : Tie) (some : units ≠ 0)
    (small : size units < 10 ^ (-5 : ℤ)) : (shortest tie units).value < 10 ^ (-5 : ℤ) := by
  have unit := one_cast_pos
  have near := (abs_sub_le_iff.mp (represents_shortest tie onGrid some).near).1
  have fraction : (10 : ℚ) ^ (-5 : ℤ) = 1 / 10 ^ 5 := by norm_num
  rw [fraction] at small ⊢
  -- half a gap above the last number below lies below the fraction, too
  have room : (2 * units + 2 ^ gridOf units) * 10 ^ 5 < 2 * one := by
    apply room_below_lowest onGrid
    rw [size, div_lt_div_iff₀ unit (by norm_num), one_mul] at small
    exact_mod_cast small
  have room_cast : (2 * (size units * one) + gap units * one) * 10 ^ 5 < 2 * one := by
    rw [size_mul_one, gap_mul_one]
    exact_mod_cast room
  have scaled : (2 * size units + gap units) * 10 ^ 5 < 2 := by
    apply lt_of_mul_lt_mul_right _ unit.le
    linarith
  rw [lt_div_iff₀ (by norm_num)]
  linarith

theorem exponent_shortest_lt_of_lt (tie : Tie) (some : units ≠ 0)
    (small : size units < 10 ^ (-5 : ℤ)) : (shortest tie units).exponent < -5 :=
  Decimal.exponent_lt (represents_shortest tie onGrid some).digits_ne_zero
    (value_shortest_lt_of_lt onGrid tie some small)

/-- The shortest decimals that ties give when they are broken in two ways are neighbours, with the
number half way between them. -/
structure Torn (units : Nat) (even up : Decimal) : Prop where
  exponent_eq : even.exponent = up.exponent
  place_le : up.place ≤ even.place
  value_eq : up.value = even.value + 10 ^ up.place
  middle : 2 * size units = even.value + up.value

theorem eq_or_torn (some : units ≠ 0) :
    shortest .even units = shortest .up units ∨
      Torn units (shortest .even units) (shortest .up units) := by
  obtain ⟨n, -, -, found⟩ := exists_shortest_eq onGrid some
  obtain ⟨e, even_at, even⟩ := found .even
  obtain ⟨u, up_at, up⟩ := found .up
  rw [even, up]
  rcases shortestAt_up_or_even up_at even_at with rfl | ⟨rfl, rfl, digits, middle⟩
  · exact .inl rfl
  · right
    change quotient units (magnitude units - n) % 2 = 0 at digits
    have odd : (Decimal.above units (magnitude units - n)).dropZero =
        .above units (magnitude units - n) := by
      have last : (quotient units (magnitude units - n) + 1) % 10 ≠ 0 := by
        omega
      exact if_neg last
    have nonzero := (represents_of_shortestAt some even_at).digits_ne_zero
    rw [odd]
    refine ⟨?_, ?_, ?_, ?_⟩
    · rw [Decimal.exponent_dropZero nonzero]
      unfold Decimal.exponent Decimal.above Decimal.below
      dsimp only
      rw [length_toDigits_succ digits]
    · exact Decimal.le_place_dropZero _
    · rw [Decimal.value_dropZero, value_above]
      rfl
    · rw [Decimal.value_dropZero, middle]

theorem exponent_shortest_eq (some : units ≠ 0) :
    (shortest .even units).exponent = (shortest .up units).exponent := by
  rcases eq_or_torn onGrid some with same | torn
  · rw [same]
  · exact torn.exponent_eq

/-- Below 10¹⁶ no tie is between whole numbers. -/
theorem shortest_eq_of_whole (some : units ≠ 0) {n : Nat} (whole : size units = n)
    (small : size units < 10 ^ (16 : ℤ)) : shortest .even units = shortest .up units := by
  rcases eq_or_torn onGrid some with same | torn
  · exact same
  · exfalso
    have even_place := (place_nonneg_iff onGrid .even some).mpr ⟨n, whole⟩
    have up_place := (place_nonneg_iff onGrid .up some).mpr ⟨n, whole⟩
    have near := (abs_sub_le_iff.mp (represents_shortest .up onGrid some).near).1
    have step := torn.value_eq
    have middle := torn.middle
    have narrow : gap units ≤ 2 := by
      have fine := gridOf_le_of_size_lt some (k := 54) (small.trans (by norm_num))
      rw [gap, div_le_iff₀ one_cast_pos, one_eq, ← pow_succ']
      exact pow_le_pow_right₀ one_le_two fine
    have ones : (shortest .up units).place = 0 := by
      have short : (10 : ℚ) ^ (shortest .up units).place < 10 ^ (1 : ℤ) := by
        rw [zpow_one]
        linarith
      have := ten_zpow_lt_iff.mp short
      omega
    have digits := Decimal.value_eq_natCast even_place
    rw [ones, zpow_zero] at step
    rw [whole, step, digits] at middle
    generalize (shortest .even units).digits * 10 ^ (shortest .even units).place.toNat = e at middle
    have parity : 2 * n = e + (e + 1) := by exact_mod_cast middle
    omega

end

end DataGrid.Double
