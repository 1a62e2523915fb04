import DataGrid.Proofs.Double.Exact
import DataGrid.Proofs.Execution.Bounds
import Mathlib.Algebra.Order.Floor.Semifield
import Mathlib.Data.Rat.Floor

namespace DataGrid

open Double

namespace Text

theorem isBlank_of_isDigit {c : Char} (digit : c.isDigit = true) : isBlank c = false := by
  simp only [Char.isDigit, Bool.and_eq_true, decide_eq_true_eq, ge_iff_le,
    UInt32.le_iff_toNat_le] at digit
  have code : 48 ≤ c.toNat ∧ c.toNat ≤ 57 := digit
  simp only [isBlank, inRanges, blankRanges, List.any_cons, List.any_nil, Bool.or_false,
    Bool.or_eq_false_iff, Bool.and_eq_false_iff, decide_eq_false_iff_not]
  omega

theorem trim_repr (n : Nat) : trim n.repr = n.repr := by
  have digits : ∀ c ∈ Nat.toDigits 10 n, isBlank c = false := fun c member =>
    isBlank_of_isDigit (Nat.isDigit_of_mem_toDigits (by decide) (by decide) member)
  have kept {s : List Char} (all : ∀ c ∈ s, isBlank c = false) : s.dropWhile isBlank = s := by
    cases s with
    | nil => rfl
    | cons c s => rw [List.dropWhile_cons_of_neg (by simp [all c List.mem_cons_self])]
  have reversed : ∀ c ∈ (Nat.toDigits 10 n).reverse, isBlank c = false := fun c member =>
    digits c (List.mem_reverse.mp member)
  rw [trim, Nat.repr, String.toList_ofList, trimChars, kept digits, kept reversed,
    List.reverse_reverse]

end Text

def Json.Number.value : Json.Number → ℚ
  | .int i => i.val
  | .real x => x.value

theorem Json.Number.isNearest_toDouble (n : Json.Number) : IsNearest n.value n.toDouble := by
  cases n with
  | int i => exact isNearest_ofInt i.val
  | real x => exact isNearest_self x

namespace Window

/-- What a client writes as a bound, the number that it names, and the double that it is read as. -/
inductive Names : Json → ℚ → Double → Prop
  | number (n : Json.Number) : Names (.num n) n.value n.toDouble
  | text {s : String} {x : Numeral} :
    NumeralText (Text.trim s).toList x → Names (.str s) x.value x.toDouble

/-- A number without a sign, a fraction or an exponent that 64 bits hold. -/
inductive IsUnsigned : Json → Prop
  | mk {i : Json.Integer} : 0 ≤ i.val → IsUnsigned (.num (.int i))

/-- The answer to a bound that is cut to its whole part: a number that is not above minus one, or
that 64 bits do not hold, is an error. -/
def Cuts (name : Bound) (x : ℚ) (answer : Except QueryError (Option Nat)) : Prop :=
  if -1 < x ∧ x < 2 ^ 64 then answer = .ok (some ⌊x⌋₊)
  else ∃ fault, answer = .error (.invalidBound name fault)

/-- The double that a number is read as is cut to another bound than the number. -/
inductive Strays (x : ℚ) : Double → Prop
  | long {y : Finite} : 2 ^ 64 ≤ x → Strays x (.finite y)
  | negative {y : Finite} : -1 < x → y.value ≤ -1 → Strays x (.finite y)
  | whole {y : Finite} : -1 < x → x < 2 ^ 64 → min ⌊y.value⌋₊ maxBound ≠ ⌊x⌋₊ → Strays x (.finite y)

theorem Names.isNearest {raw : Json} {x : ℚ} {y : Double} (names : Names raw x y) :
    IsNearest x y := by
  cases names with
  | number n => exact n.isNearest_toDouble
  | text => exact Numeral.isNearest_toDouble _

theorem wholeBound_finite (y : Finite) : wholeBound (.finite y) =
    if y.value ≤ -1 then .error (.negative (.finite y)) else .ok (min ⌊y.value⌋₊ maxBound) := by
  have size := y.size_nonneg
  have whole : ⌊(y.units / one : ℚ)⌋₊ = y.whole := Nat.floor_div_eq_div _ _
  rw [wholeBound, ← whole]
  cases sign : y.negative with
  | false =>
    have above : ¬ y.value ≤ -1 := by
      rw [Finite.value_of_positive sign]
      linarith
    rw [if_neg above, Finite.value_of_positive sign]
    exact if_neg Bool.false_ne_true
  | true =>
    have value_eq := Finite.value_of_negative sign
    have nonpos : y.value ≤ 0 := value_eq ▸ neg_nonpos.mpr size
    have past : 0 < ⌊(y.units / one : ℚ)⌋₊ ↔ y.value ≤ -1 := by
      rw [value_eq, neg_le_neg_iff, Nat.floor_pos]
    rw [Nat.floor_of_nonpos nonpos]
    by_cases below : y.value ≤ -1
    · rw [if_pos below, Bool.true_and, if_pos (decide_eq_true (past.mpr below))]
    · have none : ⌊(y.units / one : ℚ)⌋₊ = 0 :=
        Nat.eq_zero_of_not_pos fun some => below (past.mp some)
      rw [if_neg below, none]
      rfl

theorem le_neg_one_of_isNearest {x : ℚ} {y : Finite} (nearest : IsNearest x (.finite y))
    (le : x ≤ -1) : y.value ≤ -1 := by
  obtain ⟨z, hz⟩ := exists_value_eq_mul_two_pow true (m := 1) (k := 0) (by decide) (Nat.zero_le _)
  have minus_one : z.value = -1 := by simpa [signed] using hz
  rw [← minus_one]
  apply nearest.value_le
  rwa [minus_one]

theorem two_pow_le_of_isNearest {x : ℚ} {y : Finite} {k : Nat} (nearest : IsNearest x (.finite y))
    (small : k ≤ 970) (le : 2 ^ k ≤ x) : 2 ^ k ≤ y.value := by
  obtain ⟨z, hz⟩ := exists_value_eq_two_pow small
  rw [← hz]
  apply nearest.le_value
  rwa [hz]

theorem cuts_ok_iff {name : Bound} {x : ℚ} {n : Nat} :
    Cuts name x (.ok (some n)) ↔ (-1 < x ∧ x < 2 ^ 64) ∧ n = ⌊x⌋₊ := by
  unfold Cuts
  split
  · next fits => simp [fits]
  · next past => simp [past]

theorem cuts_error_iff {name : Bound} {x : ℚ} {fault : BoundFault} :
    Cuts name x (.error (.invalidBound name fault)) ↔ ¬ (-1 < x ∧ x < 2 ^ 64) := by
  unfold Cuts
  split
  · next fits => simp [fits]
  · next past => simp [past]

theorem not_fits_of_limit_le {x : ℚ} (far : limit ≤ |x|) : ¬ (-1 < x ∧ x < 2 ^ 64) := by
  have large : (2 : ℚ) ^ 64 ≤ |x| := (two_pow_le_limit (by decide)).trans far
  rintro ⟨lower, upper⟩
  rcases le_abs.mp large with above | below <;> linarith

/-- A double that is rejected strays from every number that is not. -/
theorem strays_iff_of_le {x : ℚ} {y : Finite} (nearest : IsNearest x (.finite y))
    (low : y.value ≤ -1) : Strays x (.finite y) ↔ -1 < x ∧ x < 2 ^ 64 := by
  have upper : x < 2 ^ 64 := by
    by_contra long
    have large := two_pow_le_of_isNearest nearest (by decide) (not_lt.mp long)
    linarith
  constructor
  · intro strays
    cases strays with
    | long long => exact absurd upper (not_lt.mpr long)
    | negative lower _ => exact ⟨lower, upper⟩
    | whole lower _ _ => exact ⟨lower, upper⟩
  · rintro ⟨lower, -⟩
    exact .negative lower low

theorem not_strays_iff_of_not_le {x : ℚ} {y : Finite} (nearest : IsNearest x (.finite y))
    (high : ¬ y.value ≤ -1) :
    ¬ Strays x (.finite y) ↔ (-1 < x ∧ x < 2 ^ 64) ∧ min ⌊y.value⌋₊ maxBound = ⌊x⌋₊ := by
  constructor
  · intro stays
    have lower : -1 < x := not_le.mp fun le => high (le_neg_one_of_isNearest nearest le)
    have upper : x < 2 ^ 64 := not_le.mp fun long => stays (.long long)
    exact ⟨⟨lower, upper⟩, not_not.mp fun apart => stays (.whole lower upper apart)⟩
  · rintro ⟨⟨lower, upper⟩, same⟩ strays
    cases strays with
    | long long => exact absurd upper (not_lt.mpr long)
    | negative _ below => exact high below
    | whole _ _ apart => exact apart same

/-- What is read through a double is cut as it should be, unless the double strays. -/
theorem cuts_wholeBound_iff (name : Bound) {x : ℚ} {y : Double} (nearest : IsNearest x y) :
    Cuts name x ((some <$> wholeBound y).mapError (.invalidBound name)) ↔ ¬ Strays x y := by
  cases y with
  | nan => cases nearest
  | infinite negative =>
    have far : limit ≤ |x| := by
      cases nearest with
      | infinite large => exact large
    exact iff_of_true (cuts_error_iff.mpr (not_fits_of_limit_le far)) nofun
  | finite y =>
    rw [wholeBound_finite]
    by_cases low : y.value ≤ -1
    · rw [if_pos low, strays_iff_of_le nearest low]
      exact cuts_error_iff
    · rw [if_neg low, not_strays_iff_of_not_le nearest low]
      exact cuts_ok_iff

theorem bound_of_names (name : Bound) {raw : Json} {x : ℚ} {y : Double} (names : Names raw x y)
    (signed : ¬ IsUnsigned raw) :
    bound name (some raw) = (some <$> wholeBound y).mapError (.invalidBound name) := by
  cases names with
  | number n =>
    have none : n.toNat? = none := by
      cases n with
      | real _ => rfl
      | int i => exact if_neg fun positive => signed (.mk positive)
    rw [bound, readBound, none]
  | @text s x written =>
    have given : Text.trim s ≠ "" := by
      intro blank
      rw [blank] at written
      exact written.ne_nil rfl
    rw [bound, readBound, if_neg given, parse?_of_numeralText written]

theorem cuts_of_isUnsigned (name : Bound) {raw : Json} {x : ℚ} {y : Double} (names : Names raw x y)
    (unsigned : IsUnsigned raw) : Cuts name x (bound name (some raw)) := by
  cases unsigned with
  | @mk i positive =>
    have read : bound name (some (.num (.int i))) = .ok (some i.val.toNat) := by
      rw [bound, readBound, Json.Number.toNat?, if_pos positive]
      rfl
    cases names with
    | number =>
      rw [read]
      apply cuts_ok_iff.mpr
      refine ⟨⟨?_, ?_⟩, ?_⟩
      · have above : (0 : ℚ) ≤ i.val := Int.cast_nonneg positive
        exact neg_one_lt_zero.trans_le above
      · have below : i.val < 2 ^ 64 := i.upper
        rw [Json.Number.value]
        exact_mod_cast below
      · rw [Json.Number.value, ← Int.floor_toNat, Int.floor_intCast]

theorem not_strays_of_value_eq {x : ℚ} {y : Double} {z : Finite} (nearest : IsNearest x y)
    (same : z.value = x) (fits : x < 2 ^ 64) : ¬ Strays x y := by
  intro strays
  cases strays with
  | long long => exact absurd fits (not_lt.mpr long)
  | negative above below =>
    rw [nearest.value_eq same] at below
    exact absurd above (not_lt.mpr below)
  | whole above _ apart =>
    rw [nearest.value_eq same] at apart
    refine apart (Nat.min_eq_left (Nat.lt_succ_iff.mp ?_))
    rw [Nat.floor_lt' (Nat.succ_ne_zero _)]
    exact fits

theorem exists_names_repr (n : Nat) : ∃ y, Names (.str n.repr) n y := by
  have all : ∀ c ∈ Nat.toDigits 10 n, c.isDigit = true := fun c member =>
    Nat.isDigit_of_mem_toDigits (by decide) (by decide) member
  have given : Nat.toDigits 10 n ++ [] ≠ [] := by simp [Nat.toDigits_ne_nil]
  have written := NumeralText.mk .none all .none .none given
  have text : (Text.trim n.repr).toList = [] ++ (Nat.toDigits 10 n ++ ([] ++ [])) := by
    rw [Text.trim_repr, Nat.repr, String.toList_ofList, List.append_nil, List.append_nil,
      List.nil_append]
  have value : (Numeral.ofDigits false (Nat.toDigits 10 n) [] 0).value = n := by
    simp [Numeral.ofDigits, Numeral.value, Text.digitsValue_toDigits, signed]
  rw [← text] at written
  rw [← value]
  exact ⟨_, .text written⟩

/-- The largest bound is read as the power of two after it. -/
theorem value_of_isNearest_maxBound {y : Finite} (nearest : IsNearest maxBound (.finite y)) :
    y.value = (2 ^ 64 : Nat) := by
  have largest : (maxBound : ℚ) = 2 ^ 64 - 1 := by norm_num [maxBound]
  obtain ⟨z, hz⟩ := exists_value_eq_two_pow (k := 64) (by decide)
  have near := nearest.abs_sub_le z
  rw [hz, largest, sub_sub_cancel, abs_one, abs_le] at near
  have large : (2 : ℚ) ^ (52 + 11) ≤ y.value := by
    norm_num
    linarith
  -- the next double below is further away
  obtain ⟨m, hm⟩ := Finite.exists_value_eq_mul large
  rw [hm] at near
  have lower : 2 ^ 64 ≤ m * 2 ^ 11 + 2 := by
    have : (2 : ℚ) ^ 64 ≤ m * 2 ^ 11 + 2 := by linarith
    exact_mod_cast this
  have upper : m * 2 ^ 11 ≤ 2 ^ 64 := by
    have : (m : ℚ) * 2 ^ 11 ≤ 2 ^ 64 := by linarith
    exact_mod_cast this
  have same : m * 2 ^ 11 = 2 ^ 64 := by omega
  rw [hm, ← same, Nat.cast_mul, Nat.cast_pow, Nat.cast_ofNat]

/-- An integer strays just when no double is it and it is not the largest. -/
theorem strays_natCast_iff {n : Nat} {y : Double} (fits : n ≤ maxBound) (nearest : IsNearest n y) :
    ¬ Strays n y ↔ (∃ z : Finite, z.value = n) ∨ n = maxBound := by
  have below : (n : ℚ) < 2 ^ 64 := by exact_mod_cast Nat.lt_succ_of_le fits
  have above : (-1 : ℚ) < n := neg_one_lt_zero.trans_le n.cast_nonneg
  have size : |(n : ℚ)| < limit := by
    rw [Nat.abs_cast]
    exact below.trans_le (two_pow_le_limit (by decide))
  obtain ⟨y, rfl⟩ := nearest.exists_finite size
  constructor
  · intro stays
    by_contra lost
    rw [not_or] at lost
    have long : 2 ^ 53 ≤ n := by
      by_contra short
      exact lost.1 (exists_value_eq_natCast (not_le.mp short).le)
    obtain ⟨m, hm⟩ := Finite.exists_value_eq_mul (y := y) (k := 1)
      (two_pow_le_of_isNearest nearest (by decide) (by exact_mod_cast long))
    have whole : y.value = (m * 2 : Nat) := by rw [hm, Nat.cast_mul, pow_one, Nat.cast_ofNat]
    have read : min (m * 2) maxBound = n := by
      by_contra apart
      refine stays (.whole above below ?_)
      rwa [whole, Nat.floor_natCast, Nat.floor_natCast]
    have same : m * 2 = n := by omega
    exact lost.1 ⟨y, by rw [whole, same]⟩
  · rintro (⟨z, same⟩ | rfl)
    · exact not_strays_of_value_eq nearest same below
    · intro strays
      cases strays with
      | long long => exact absurd below (not_lt.mpr long)
      | negative _ low =>
        rw [value_of_isNearest_maxBound nearest] at low
        exact absurd low (not_le.mpr (neg_one_lt_zero.trans_le (Nat.cast_nonneg _)))
      | whole _ _ apart =>
        rw [value_of_isNearest_maxBound nearest, Nat.floor_natCast, Nat.floor_natCast] at apart
        exact apart rfl

theorem cuts_natCast_iff {name : Bound} {n : Nat} {answer : Except QueryError (Option Nat)}
    (fits : n ≤ maxBound) : Cuts name n answer ↔ answer = .ok (some n) := by
  have below : (n : ℚ) < 2 ^ 64 := by exact_mod_cast Nat.lt_succ_of_le fits
  have above : (-1 : ℚ) < n := neg_one_lt_zero.trans_le n.cast_nonneg
  rw [Cuts, if_pos ⟨above, below⟩, Nat.floor_natCast]

/-- A bound is the whole part of the number that a client writes, or an error where there is none
that 64 bits hold, unless the number is read through the double nearest to it and strays. No double
does. An integer that is written as a number is kept as it is; its digits written as a text give the
same bound just when it is a double, or the largest one. -/
theorem bound_cuts_unless_double_strays (name : Bound) :
    (∀ {raw : Json} {x : ℚ} {y : Double}, Names raw x y →
      IsNearest x y ∧
      (Cuts name x (bound name (some raw)) ↔ IsUnsigned raw ∨ ¬ Strays x y) ∧
      (x < 2 ^ 64 → (∃ z : Finite, z.value = x) → Cuts name x (bound name (some raw)))) ∧
    (∀ {n : Nat}, n ≤ maxBound →
      bound name (some (.ofNat n)) = .ok (some n) ∧
      (bound name (some (.str n.repr)) = .ok (some n) ↔
        (∃ z : Finite, z.value = n) ∨ n = maxBound)) := by
  have cuts_iff {raw : Json} {x : ℚ} {y : Double} (names : Names raw x y) :
      Cuts name x (bound name (some raw)) ↔ IsUnsigned raw ∨ ¬ Strays x y := by
    by_cases unsigned : IsUnsigned raw
    · exact iff_of_true (cuts_of_isUnsigned name names unsigned) (.inl unsigned)
    · rw [bound_of_names name names unsigned, or_iff_right unsigned]
      exact cuts_wholeBound_iff name names.isNearest
  constructor
  · intro raw x y names
    refine ⟨names.isNearest, cuts_iff names, ?_⟩
    rintro fits ⟨z, same⟩
    exact (cuts_iff names).mpr (.inr (not_strays_of_value_eq names.isNearest same fits))
  · intro n fits
    constructor
    · rw [bound_eq_ok_iff, readBound_ofNat fits]
    · obtain ⟨y, names⟩ := exists_names_repr n
      rw [← cuts_natCast_iff fits, cuts_iff names, or_iff_right nofun,
        strays_natCast_iff fits names.isNearest]

/-- A power of ten is read as the integer that it is. -/
theorem bound_of_oneThousand : bound .skip (some (.str " 1e3 ")) = .ok (some 1000) := by
  have digit : ∀ c ∈ ['1'], c.isDigit = true := List.forall_mem_singleton.mpr rfl
  have place : ∀ c ∈ ['3'], c.isDigit = true := List.forall_mem_singleton.mpr rfl
  have power : ExponentText ['e', '3'] (signed false 3) :=
    .power (.inl rfl) .none (List.cons_ne_nil _ _) place
  have given : ['1'] ++ [] ≠ [] := by decide
  have written : NumeralText (Text.trim " 1e3 ").toList (Numeral.ofDigits false ['1'] [] 3) :=
    .mk .none digit .none power given
  have first : Text.digitsValue ['1'] = 1 := rfl
  have value : (Numeral.ofDigits false ['1'] [] 3).value = (1000 : Nat) := by
    norm_num [Numeral.ofDigits, Numeral.value, first, signed]
  have names := Names.text written
  rw [value] at names
  obtain ⟨⟨-, -, whole⟩, -⟩ := (bound_cuts_unless_double_strays .skip).imp_left fun all => all names
  exact (cuts_natCast_iff (by decide)).mp
    (whole (by norm_num) (exists_value_eq_natCast (by decide)))

/-- An odd integer of 54 bits is kept when it is a number, and is another one when it is a text. -/
theorem oddBound_as_text_is_even :
    bound .skip (some (.ofNat 9007199254740993)) = .ok (some 9007199254740993) ∧
      (bound .skip (some (.str "9007199254740993"))).toOption = some (some 9007199254740992) := by
  refine ⟨?_, by decide +kernel⟩
  rw [bound_eq_ok_iff]
  exact readBound_ofNat (by decide)

end Window

end DataGrid
