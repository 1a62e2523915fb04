import DataGrid.Double.Numeral
import DataGrid.Proofs.Double.Nearest
import Mathlib.Algebra.Order.Field.Power

namespace DataGrid

namespace Text

theorem spanDigits_of_digits {digits rest : List Char} (all : ∀ c ∈ digits, c.isDigit = true)
    (stop : ∀ c ∈ rest.head?, c.isDigit = false) : spanDigits (digits ++ rest) = (digits, rest) := by
  have none_first : rest.takeWhile Char.isDigit = [] ∧ rest.dropWhile Char.isDigit = rest := by
    cases rest with
    | nil => exact ⟨rfl, rfl⟩
    | cons c rest => simp [stop c rfl]
  rw [spanDigits, List.takeWhile_append_of_pos all, List.dropWhile_append_of_pos all, none_first.1,
    none_first.2, List.append_nil]

theorem digitsValue_toDigits (n : Nat) : digitsValue (Nat.toDigits 10 n) = n :=
  Nat.ofDigitChars_ten_toDigits

theorem toDigits_inj {m n : Nat} (same : Nat.toDigits 10 m = Nat.toDigits 10 n) : m = n := by
  rw [← digitsValue_toDigits m, same, digitsValue_toDigits]

end Text

theorem pow_le_iff_lt_length_toDigits {n k : Nat} (positive : 0 < n) :
    10 ^ k ≤ n ↔ k < (Nat.toDigits 10 n).length := by
  rcases Nat.eq_zero_or_pos k with rfl | some
  · exact iff_of_true positive Nat.length_toDigits_pos
  · rw [← not_iff_not, Nat.not_le, Nat.not_lt, Nat.length_toDigits_le_iff (by decide) some]

theorem lt_pow_length_toDigits (n : Nat) : n < 10 ^ (Nat.toDigits 10 n).length :=
  (Nat.length_toDigits_le_iff (by decide) Nat.length_toDigits_pos).mp (Nat.le_refl _)

namespace Double

open Text

def Numeral.value (x : Numeral) : ℚ :=
  signed x.negative x.significand * 10 ^ x.exponent

theorem zpow_eq_div (e : ℤ) : (10 : ℚ) ^ e = 10 ^ e.toNat / 10 ^ (-e).toNat := by
  rcases Int.le_total 0 e with nonneg | nonpos
  · rw [Int.toNat_of_nonpos (by omega : -e ≤ 0), pow_zero, div_one, ← zpow_natCast,
      Int.toNat_of_nonneg nonneg]
  · rw [Int.toNat_of_nonpos nonpos, pow_zero, one_div, ← zpow_natCast,
      Int.toNat_of_nonneg (by omega : 0 ≤ -e), zpow_neg, inv_inv]

/-- The size of a numeral by the place of its first digit. -/
theorem Numeral.abs_value_lt (x : Numeral) :
    |x.value| < 10 ^ ((Nat.toDigits 10 x.significand).length + x.exponent) := by
  have digits : (x.significand : ℚ) < 10 ^ (Nat.toDigits 10 x.significand).length := by
    exact_mod_cast lt_pow_length_toDigits x.significand
  have scale : (0 : ℚ) < 10 ^ x.exponent := by positivity
  rw [value, abs_mul, abs_signed, abs_of_pos scale, zpow_add₀ (by norm_num), zpow_natCast]
  exact mul_lt_mul_of_pos_right digits scale

theorem Numeral.le_abs_value {x : Numeral} (nonzero : x.significand ≠ 0) :
    10 ^ ((Nat.toDigits 10 x.significand).length + x.exponent - 1) ≤ |x.value| := by
  have some : 0 < (Nat.toDigits 10 x.significand).length := Nat.length_toDigits_pos
  have digits : (10 : ℚ) ^ ((Nat.toDigits 10 x.significand).length - 1) ≤ x.significand := by
    exact_mod_cast (pow_le_iff_lt_length_toDigits (Nat.pos_of_ne_zero nonzero)).mpr
      (Nat.sub_one_lt_of_lt some)
  have exponents : (Nat.toDigits 10 x.significand).length + x.exponent - 1 =
      ((Nat.toDigits 10 x.significand).length - 1 : Nat) + x.exponent := by omega
  have scale : (0 : ℚ) < 10 ^ x.exponent := by positivity
  rw [value, abs_mul, abs_signed, abs_of_pos scale, exponents, zpow_add₀ (by norm_num), zpow_natCast]
  exact mul_le_mul_of_nonneg_right digits scale.le

theorem Finite.value_of_units_zero {z : Finite} (none : z.units = 0) : z.value = 0 := by
  rw [value, none, signed_zero, Int.cast_zero, zero_div]

theorem Finite.one_le_abs_value {z : Finite} (nonzero : z.units ≠ 0) :
    1 / (one : ℚ) ≤ |z.value| := by
  have some : (1 : ℚ) ≤ z.units := by exact_mod_cast Nat.pos_of_ne_zero nonzero
  rw [value, abs_div, abs_signed, abs_of_pos one_cast_pos]
  exact div_le_div_of_nonneg_right some one_cast_pos.le

theorem isNearest_zero (negative : Bool) {x : ℚ} (tiny : 2 * |x| ≤ 1 / one) :
    IsNearest x (ofUnits negative 0 1) := by
  have unit : (1 : ℚ) / one ≤ 1 := by
    rw [div_le_one one_cast_pos]
    exact_mod_cast one_pos
  rw [ofUnits_zero]
  refine .finite (by linarith [abs_nonneg x, one_le_limit]) fun z => ?_
  rw [Finite.value_of_units_zero rfl, zero_sub, abs_neg]
  by_cases none : z.units = 0
  · rw [Finite.value_of_units_zero none, zero_sub, abs_neg]
  · have apart : |z.value| - |x| ≤ |z.value - x| := abs_sub_abs_le_abs_sub z.value x
    linarith [Finite.one_le_abs_value none]

theorem two_pow_le_ten_pow {a b : Nat} (h : a ≤ 3 * b) : (2 : ℚ) ^ a ≤ 10 ^ b := by
  calc (2 : ℚ) ^ a ≤ 2 ^ (3 * b) := pow_le_pow_right₀ one_le_two h
    _ = (2 ^ 3) ^ b := pow_mul 2 3 b
    _ ≤ 10 ^ b := pow_le_pow_left₀ (by norm_num) (by norm_num) b

theorem ten_pow_le_half_unit : (10 : ℚ) ^ (-401 : ℤ) ≤ 1 / one / 2 := by
  have exponents : 1074 + 1 ≤ 3 * 401 := by decide
  rw [zpow_neg, zpow_ofNat, one_eq, div_div, ← one_div, ← pow_succ]
  generalize 1074 = a at exponents
  exact one_div_le_one_div_of_le (pow_pos two_pos _) (two_pow_le_ten_pow exponents)

theorem limit_le_ten_pow : limit ≤ (10 : ℚ) ^ (400 : ℤ) := by
  have exponents : 1024 ≤ 3 * 400 := by decide
  rw [limit, zpow_ofNat]
  generalize 1024 = a at exponents
  have small : (0 : ℚ) ≤ 2 ^ 970 := pow_nonneg zero_le_two 970
  exact (sub_le_self _ small).trans (two_pow_le_ten_pow exponents)

/-- Reading a numeral gives the double nearest to it, also where its powers are not worked out. -/
theorem Numeral.isNearest_toDouble (x : Numeral) : IsNearest x.value x.toDouble := by
  unfold toDouble
  dsimp only
  split_ifs with small large
  · refine isNearest_zero x.negative ?_
    rcases small with none | past
    · rw [value, none, signed_zero, Int.cast_zero, zero_mul, abs_zero, mul_zero]
      exact one_div_nonneg.mpr one_cast_pos.le
    · have tiny : |x.value| < 10 ^ (-401 : ℤ) :=
        x.abs_value_lt.trans_le (zpow_le_zpow_right₀ (by norm_num) (by omega))
      linarith [ten_pow_le_half_unit]
  · have nonzero : x.significand ≠ 0 := fun none => small (.inl none)
    have huge : (10 : ℚ) ^ (400 : ℤ) ≤ |x.value| :=
      (zpow_le_zpow_right₀ (by norm_num) (by omega)).trans (le_abs_value nonzero)
    refine .infinite (limit_le_ten_pow.trans huge) ?_
    have power : (0 : ℚ) < 10 ^ x.exponent := by positivity
    rw [value, ← lt_div_iff₀ power, zero_div, Int.cast_lt_zero,
      signed_neg_iff x.negative (Nat.pos_of_ne_zero nonzero)]
  · have powers : x.value = signed x.negative (x.significand * Nat.pow 10 x.exponent.toNat * one) /
        ((Nat.pow 10 (-x.exponent).toNat : Nat) * one) := by
      have unit : (one : ℚ) ≠ 0 := one_cast_pos.ne'
      rw [value, zpow_eq_div, signed_mul, signed_mul, Int.cast_mul, Int.cast_natCast,
        mul_div_mul_right _ _ unit, Int.cast_mul, Int.cast_natCast, mul_div_assoc, Nat.pow_eq,
        Nat.pow_eq, Nat.cast_pow, Nat.cast_pow, Nat.cast_ofNat]
    rw [powers]
    exact isNearest_ofUnits _ _ (Nat.pow_pos (by decide))

inductive SignText : List Char → Bool → Prop
  | none : SignText [] false
  | plus : SignText ['+'] false
  | minus : SignText ['-'] true

inductive FractionText : List Char → List Char → Prop
  | none : FractionText [] []
  | point {digits : List Char} :
    (∀ c ∈ digits, c.isDigit = true) → FractionText ('.' :: digits) digits

inductive ExponentText : List Char → ℤ → Prop
  | none : ExponentText [] 0
  | power {mark : Char} {sign digits : List Char} {negative : Bool} :
    mark = 'e' ∨ mark = 'E' → SignText sign negative → digits ≠ [] →
    (∀ c ∈ digits, c.isDigit = true) →
    ExponentText (mark :: (sign ++ digits)) (signed negative (digitsValue digits))

/-- A decimal numeral: a sign, digits on either side of a point, of which there is one at least, and
a power of ten. -/
inductive NumeralText : List Char → Numeral → Prop
  | mk {sign whole point fraction power : List Char} {negative : Bool} {exponent : ℤ} :
    SignText sign negative → (∀ c ∈ whole, c.isDigit = true) → FractionText point fraction →
    ExponentText power exponent → whole ++ fraction ≠ [] →
    NumeralText (sign ++ (whole ++ (point ++ power))) (.ofDigits negative whole fraction exponent)

/-- What neither a sign starts with nor a word for a number. -/
def StartsNumber (s : List Char) : Prop :=
  ∃ c ∈ s.head?, c.isDigit = true ∨ c = '.'

theorem readSign_of_signText {sign rest : List Char} {negative : Bool} (h : SignText sign negative)
    (starts : StartsNumber rest) : readSign (sign ++ rest) = (negative, rest) := by
  cases h with
  | plus => rfl
  | minus => rfl
  | none =>
    obtain ⟨c, first, digit⟩ := starts
    cases rest with
    | nil => cases first
    | cons d rest =>
      cases first
      have unsigned : c ≠ '-' ∧ c ≠ '+' := by
        constructor <;> rintro rfl <;> exact absurd digit (by decide)
      rw [List.nil_append]
      unfold readSign
      split
      · next same => exact absurd (List.cons.inj same).1 unsigned.1
      · next same => exact absurd (List.cons.inj same).1 unsigned.2
      · rfl

theorem startsNumber_of_digits {digits : List Char} (some : digits ≠ [])
    (all : ∀ c ∈ digits, c.isDigit = true) : StartsNumber digits := by
  obtain ⟨c, rest, rfl⟩ := List.exists_cons_of_ne_nil some
  exact ⟨c, rfl, .inl (all c List.mem_cons_self)⟩

theorem readExponent?_of_exponentText {power : List Char} {exponent : ℤ}
    (h : ExponentText power exponent) : readExponent? power = some exponent := by
  cases h with
  | none => rfl
  | power mark sign some all =>
    rw [readExponent?, if_pos mark, readSign_of_signText sign (startsNumber_of_digits some all)]
    exact if_pos ⟨some, List.all_eq_true.mpr all⟩

theorem head?_exponentText {power : List Char} {exponent : ℤ} (h : ExponentText power exponent) :
    ∀ c ∈ power.head?, c = 'e' ∨ c = 'E' := by
  cases h with
  | none => nofun
  | power mark =>
    rintro _ ⟨⟩
    exact mark

theorem readFraction_of_fractionText {point fraction power : List Char} {exponent : ℤ}
    (h : FractionText point fraction) (hpower : ExponentText power exponent) :
    readFraction (point ++ power) = (fraction, power) := by
  have marks := head?_exponentText hpower
  cases h with
  | none =>
    rw [List.nil_append]
    unfold readFraction
    split
    · next s =>
      rcases marks '.' rfl with mark | mark <;> exact absurd mark (by decide)
    · rfl
  | point all =>
    refine spanDigits_of_digits all fun c first => ?_
    rcases marks c first with rfl | rfl <;> rfl

theorem readNumeral?_of_parts {whole point fraction power : List Char} (negative : Bool)
    {exponent : ℤ} (all : ∀ c ∈ whole, c.isDigit = true) (hpoint : FractionText point fraction)
    (hpower : ExponentText power exponent) (some : whole ++ fraction ≠ []) :
    readNumeral? negative (whole ++ (point ++ power)) =
      .some (.ofDigits negative whole fraction exponent) := by
  have stop : ∀ c ∈ (point ++ power).head?, c.isDigit = false := by
    intro c first
    cases hpoint with
    | none =>
      rcases head?_exponentText hpower c first with rfl | rfl <;> rfl
    | point _ =>
      cases first
      rfl
  have given : ¬ (whole = [] ∧ fraction = []) := by
    rintro ⟨rfl, rfl⟩
    exact some rfl
  unfold readNumeral?
  rw [spanDigits_of_digits all stop]
  dsimp only
  rw [readFraction_of_fractionText hpoint hpower]
  dsimp only
  rw [if_neg given, readExponent?_of_exponentText hpower]
  rfl

theorem startsNumber_of_parts {whole point fraction : List Char} (power : List Char)
    (all : ∀ c ∈ whole, c.isDigit = true) (hpoint : FractionText point fraction)
    (some : whole ++ fraction ≠ []) : StartsNumber (whole ++ (point ++ power)) := by
  cases whole with
  | cons c whole => exact ⟨c, rfl, .inl (all c List.mem_cons_self)⟩
  | nil =>
    cases hpoint with
    | none => exact absurd rfl some
    | point _ => exact ⟨'.', rfl, .inr rfl⟩

theorem NumeralText.ne_nil {s : List Char} {x : Numeral} (h : NumeralText s x) : s ≠ [] := by
  cases h with
  | @mk _ _ _ _ power _ _ _ all point _ given =>
    obtain ⟨c, first, -⟩ := startsNumber_of_parts power all point given
    refine List.append_ne_nil_of_right_ne_nil _ fun none => ?_
    rw [none] at first
    cases first

theorem toLower_of_digit {c : Char} (h : c.isDigit = true ∨ c = '.') : c.toLower = c := by
  rcases h with digit | rfl
  · rw [Char.isDigit, Bool.and_eq_true, decide_eq_true_eq, decide_eq_true_eq] at digit
    apply dif_neg
    rintro ⟨capital, -⟩
    exact absurd (UInt32.le_trans capital digit.2) (by decide)
  · rfl

theorem parse?_of_startsNumber {s : String} {negative : Bool} {body : List Char}
    (read : readSign s.toList = (negative, body)) (starts : StartsNumber body) :
    parse? s = (readNumeral? negative body).map Numeral.toDouble := by
  obtain ⟨c, first, digit⟩ := starts
  have other {word : String} {letter : Char} (same : String.ofList (body.map Char.toLower) = word)
      (h : word.toList.head? = .some letter) : c = letter := by
    rw [← same, String.toList_ofList, List.head?_map, first, Option.map_some,
      toLower_of_digit digit] at h
    exact Option.some.inj h
  unfold parse?
  rw [read]
  dsimp only
  split
  · next same =>
    obtain rfl := other same rfl
    exact absurd digit (by decide)
  · next same =>
    obtain rfl := other same rfl
    exact absurd digit (by decide)
  · next same =>
    obtain rfl := other same rfl
    exact absurd digit (by decide)
  · rfl

theorem parse?_of_numeralText {s : String} {x : Numeral} (h : NumeralText s.toList x) :
    parse? s = some x.toDouble := by
  generalize written : s.toList = text at h
  cases h with
  | @mk _ _ _ _ power _ _ sign all point mark given =>
    have starts := startsNumber_of_parts power all point given
    rw [parse?_of_startsNumber (written ▸ readSign_of_signText sign starts) starts,
      readNumeral?_of_parts _ all point mark given]
    rfl

end Double

end DataGrid
