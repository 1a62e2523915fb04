import DataGrid.Double.Bits
import DataGrid.Proofs.Double.Rounding

namespace DataGrid.Double

/-- The units of a finite number by its fields. A number without an exponent is on the finest grid,
as those of the first exponent are. -/
def unitsOf (exponent fraction : Nat) : Nat :=
  if exponent = 0 then fraction else (2 ^ 52 + fraction) * 2 ^ (exponent - 1)

section
variable {exponent fraction : Nat}

theorem gridOf_mul_two_pow {m : Nat} (long : 2 ^ 52 ≤ m) (short : m < 2 ^ 53) (g : Nat) :
    gridOf (m * 2 ^ g) = g := by
  have log : (m * 2 ^ g).log2 = 52 + g := by
    have nonzero : m * 2 ^ g ≠ 0 := Nat.ne_of_gt (Nat.mul_pos (by omega) (Nat.two_pow_pos g))
    rw [Nat.log2_eq_iff nonzero, Nat.pow_add, Nat.add_right_comm, Nat.pow_add]
    exact ⟨Nat.mul_le_mul_right _ long, Nat.mul_lt_mul_of_pos_right short (Nat.two_pow_pos g)⟩
  rw [gridOf, log]
  omega

theorem magnitudeBits_unitsOf (short : fraction < 2 ^ 52) :
    magnitudeBits (unitsOf exponent fraction) = exponent * 2 ^ 52 + fraction := by
  unfold magnitudeBits unitsOf
  rw [Nat.shiftLeft_eq, Nat.one_mul]
  cases exponent with
  | zero => rw [if_pos rfl, if_pos short, Nat.zero_mul, Nat.zero_add]
  | succ g =>
    have large : 2 ^ 52 ≤ (2 ^ 52 + fraction) * 2 ^ g :=
      Nat.le_trans (Nat.le_add_right _ _) (Nat.le_mul_of_pos_right _ (Nat.two_pow_pos g))
    rw [if_neg g.succ_ne_zero, Nat.succ_sub_one, if_neg (Nat.not_lt.mpr large),
      gridOf_mul_two_pow (by omega) (by omega), Nat.shiftLeft_eq, Nat.shiftRight_eq_div_pow,
      Nat.mul_div_cancel _ (Nat.two_pow_pos g)]
    omega

theorem unitsOf_lt_overflow (finite : exponent < 2047) (short : fraction < 2 ^ 52) :
    unitsOf exponent fraction < overflow := by
  have exponents : 2098 = 53 + 2045 := rfl
  have gaps : exponent - 1 ≤ 2045 := by omega
  unfold overflow unitsOf
  generalize 2098 = e at exponents
  generalize 2045 = g at exponents gaps
  rw [exponents, Nat.pow_eq, Nat.pow_add]
  split
  · have some : 2 ^ 53 ≤ 2 ^ 53 * 2 ^ g := Nat.le_mul_of_pos_right _ (Nat.two_pow_pos g)
    omega
  · calc (2 ^ 52 + fraction) * 2 ^ (exponent - 1)
        < 2 ^ 53 * 2 ^ (exponent - 1) := Nat.mul_lt_mul_of_pos_right (by omega) (Nat.two_pow_pos _)
      _ ≤ 2 ^ 53 * 2 ^ g := Nat.mul_le_mul_left _ (Nat.pow_le_pow_right Nat.two_pos gaps)

theorem representable_unitsOf (finite : exponent < 2047) (short : fraction < 2 ^ 52) :
    Representable (unitsOf exponent fraction) := by
  refine ⟨unitsOf_lt_overflow finite short, ?_⟩
  unfold unitsOf
  split
  · have dvd := grid_dvd_of_le (m := fraction) (by simp only [Nat.pow_eq]; omega) 0
    simpa using dvd
  · exact grid_dvd_of_le (by simp only [Nat.pow_eq]; omega) (exponent - 1)

theorem gridOf_lt_of_lt_overflow {units : Nat} (small : units < overflow) :
    gridOf units < 2046 := by
  rcases Nat.eq_zero_or_pos units with rfl | some
  · decide
  have exponents : 2098 = 2046 + 52 := rfl
  unfold overflow at small
  generalize 2098 = e at exponents small
  have log : units.log2 < e := (Nat.log2_lt (Nat.ne_of_gt some)).mpr small
  unfold gridOf
  omega

theorem exists_eq_unitsOf {units : Nat} (h : Representable units) :
    ∃ exponent fraction, exponent < 2047 ∧ fraction < 2 ^ 52 ∧
      units = unitsOf exponent fraction := by
  have grid : gridOf units < 2046 := gridOf_lt_of_lt_overflow h.1
  have below : units < 2 ^ gridOf units * 2 ^ 53 := Nat.mul_comm .. ▸ lt_two_pow_mul_gap units
  have above (coarse : 0 < gridOf units) : 2 ^ gridOf units * 2 ^ 52 ≤ units :=
    Nat.mul_comm .. ▸ two_pow_mul_gap_le coarse
  obtain ⟨m, hm⟩ : 2 ^ gridOf units ∣ units := h.2
  generalize gridOf units = g at *
  subst hm
  have short : m < 2 ^ 53 := Nat.lt_of_mul_lt_mul_left below
  by_cases fine : m < 2 ^ 52
  · rcases Nat.eq_zero_or_pos g with rfl | coarse
    · exact ⟨0, m, by decide, fine, Nat.one_mul m⟩
    · have long : 2 ^ 52 ≤ m := Nat.le_of_mul_le_mul_left (above coarse) (Nat.two_pow_pos g)
      omega
  · refine ⟨g + 1, m - 2 ^ 52, by omega, by omega, ?_⟩
    rw [unitsOf, if_neg g.succ_ne_zero, Nat.succ_sub_one, Nat.add_sub_cancel' (by omega),
      Nat.mul_comm]

theorem ofUnits_of_representable (negative : Bool) {units : Nat} (h : Representable units) :
    ofUnits negative units 1 = .finite ⟨negative, units, h⟩ := by
  have whole : nearestUnits units 1 = units := nearestUnits_of_dvd h.2
  have fits : nearestUnits units 1 < overflow := whole.symm ▸ h.1
  rw [ofUnits, dif_pos fits]
  simp only [whole]

theorem fields_bits (negative : Bool) (known : exponent < 2048) (short : fraction < 2 ^ 52) :
    let bits := signBit negative + (exponent * 2 ^ 52 + fraction)
    (bits >>> 63 % 2 == 1) = negative ∧ bits >>> 52 % 2048 = exponent ∧
      bits % 1 <<< 52 = fraction := by
  simp only [Nat.shiftRight_eq_div_pow, Nat.shiftLeft_eq]
  cases negative with
  | false =>
    simp [signBit]
    omega
  | true =>
    simp [signBit]
    omega

theorem ofBits_fields (negative : Bool) (finite : exponent < 2047) (short : fraction < 2 ^ 52) :
    ofBits (signBit negative + (exponent * 2 ^ 52 + fraction)) =
      .finite ⟨negative, unitsOf exponent fraction, representable_unitsOf finite short⟩ := by
  obtain ⟨sign, place, rest⟩ := fields_bits negative (Nat.lt_succ_of_lt finite) short
  unfold ofBits
  rw [← ofUnits_of_representable]
  simp only [sign, place, rest]
  rw [if_neg (Nat.ne_of_lt finite)]
  unfold unitsOf
  simp only [Nat.shiftLeft_eq, Nat.one_mul]
  split <;> rfl

theorem ofBits_last (negative : Bool) (short : fraction < 2 ^ 52) :
    ofBits (signBit negative + (2047 * 2 ^ 52 + fraction)) =
      if fraction = 0 then .infinite negative else .nan := by
  have known : 2047 < 2048 := by decide
  obtain ⟨sign, place, rest⟩ := fields_bits negative known short
  unfold ofBits
  simp only [sign, place, rest]
  rw [if_pos trivial]

/-- A number is read back from its bits. -/
theorem ofBits_of_toBits? {x : Double} {bits : Nat} (h : x.toBits? = some bits) :
    ofBits bits = x := by
  cases x with
  | nan => cases h
  | infinite negative =>
    have last := ofBits_last negative (Nat.two_pow_pos 52)
    rw [if_pos rfl, Nat.add_zero, ← Nat.shiftLeft_eq] at last
    rw [← Option.some.inj h, last]
  | finite x =>
    obtain ⟨negative, units, representable⟩ := x
    obtain ⟨exponent, fraction, finite, short, rfl⟩ := exists_eq_unitsOf representable
    rw [toBits?, magnitudeBits_unitsOf short] at h
    cases h
    exact ofBits_fields negative finite short

/-- Bits that are no NaN are those of the number that they are read as. -/
theorem toBits?_ofBits {bits : Nat} (small : bits < 2 ^ 64) (number : ofBits bits ≠ .nan) :
    (ofBits bits).toBits? = some bits := by
  obtain ⟨negative, exponent, fraction, known, short, rfl⟩ : ∃ negative exponent fraction,
      exponent < 2048 ∧ fraction < 2 ^ 52 ∧
        bits = signBit negative + (exponent * 2 ^ 52 + fraction) := by
    refine ⟨decide (2 ^ 63 ≤ bits), bits / 2 ^ 52 % 2048, bits % 2 ^ 52, by omega, by omega, ?_⟩
    unfold signBit
    by_cases large : 2 ^ 63 ≤ bits
    · simp only [large, decide_true, if_true, Nat.shiftLeft_eq]
      omega
    · simp only [large, decide_false, if_false, Bool.false_eq_true]
      omega
  rcases Nat.lt_succ_iff_lt_or_eq.mp known with finite | rfl
  · rw [ofBits_fields negative finite short, toBits?, magnitudeBits_unitsOf short]
  · rw [ofBits_last negative short] at number ⊢
    split at number
    · next none =>
      rw [if_pos none, none]
      rfl
    · exact absurd rfl number

end

theorem hexValue?_digitChar {d : Nat} (h : d < 16) : Text.hexValue? d.digitChar = some d := by
  revert d
  decide

theorem hexDigitsValue?_toDigits (n : Nat) :
    Text.hexDigitsValue? (Nat.toDigits 16 n) = some n := by
  unfold Text.hexDigitsValue?
  induction n using Nat.strongRecOn with
  | _ n ih =>
    rcases Nat.lt_or_ge n 16 with short | long
    · rw [Nat.toDigits_of_lt_base short]
      simp [hexValue?_digitChar short]
    · rw [Nat.toDigits_of_base_le (by decide) long, List.foldlM_append, ih (n / 16) (by omega)]
      simp [hexValue?_digitChar (Nat.mod_lt n (by decide : 0 < 16)), Nat.div_add_mod]

theorem hexDigitsValue?_hexPadded (width n : Nat) :
    Text.hexDigitsValue? (Text.hexPadded width n) = some n := by
  have zeros (k : Nat) : Text.hexDigitsValue? (List.replicate k '0') = some 0 := by
    induction k with
    | zero => rfl
    | succ k ih => exact ih
  unfold Text.hexDigitsValue? at zeros
  rw [Text.hexPadded, Text.hexDigitsValue?, List.foldlM_append, zeros]
  exact hexDigitsValue?_toDigits n

theorem ofHex?_hex {x : Double} (number : x ≠ .nan) : ofHex? x.hex = some x := by
  cases written : x.toBits? with
  | none =>
    cases x with
    | nan => exact absurd rfl number
    | infinite negative => cases written
    | finite x => cases written
  | some bits =>
    rw [hex, written, ofHex?, String.toList_ofList, hexDigitsValue?_hexPadded, Option.map_some,
      ofBits_of_toBits? written]

end DataGrid.Double
