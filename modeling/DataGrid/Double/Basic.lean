namespace DataGrid

namespace Double

/-- The units in one. Numbers are held exactly, as counts of units of 2⁻¹⁰⁷⁴. -/
def one : Nat :=
  Nat.pow 2 1074

/-- The first count of units past the largest finite number. -/
def overflow : Nat :=
  Nat.pow 2 2098

/-- The gap between neighbours around `units` is `2 ^ gridOf units` units. -/
def gridOf (units : Nat) : Nat :=
  units.log2 - 52

def Representable (units : Nat) : Prop :=
  units < overflow ∧ Nat.pow 2 (gridOf units) ∣ units

instance (units : Nat) : Decidable (Representable units) :=
  inferInstanceAs (Decidable (_ ∧ _))

structure Finite where
  negative : Bool
  units : Nat
  representable : Representable units
deriving DecidableEq

end Double

inductive Double where
  | nan
  | infinite (negative : Bool)
  | finite (value : Double.Finite)
deriving DecidableEq

namespace Double

/-- The whole number nearest to `num / den`; a half goes to the even neighbour. -/
def divHalfEven (num den : Nat) : Nat :=
  let q := num / den
  match compare (2 * (num % den)) den with
  | .lt => q
  | .eq => q + q % 2
  | .gt => q + 1

/-- The count of units nearest to `num / den` with 53 significant bits. -/
def nearestUnits (num den : Nat) : Nat :=
  let gap := Nat.pow 2 (gridOf (num / den))
  divHalfEven num (den * gap) * gap

theorem divHalfEven_le (num den : Nat) : divHalfEven num den ≤ num / den + 1 := by
  unfold divHalfEven
  dsimp only
  split <;> omega

theorem grid_dvd_of_le {m : Nat} (hm : m ≤ Nat.pow 2 53) (g : Nat) :
    Nat.pow 2 (gridOf (m * Nat.pow 2 g)) ∣ m * Nat.pow 2 g := by
  simp only [Nat.pow_eq] at hm ⊢
  unfold gridOf
  rcases Nat.eq_zero_or_pos m with rfl | hpos
  · simp
  rcases Nat.lt_or_eq_of_le hm with hlt | rfl
  · have hne : m * 2 ^ g ≠ 0 :=
      Nat.mul_ne_zero (by omega) (Nat.pos_iff_ne_zero.mp (Nat.two_pow_pos g))
    have hlog : (m * 2 ^ g).log2 < 53 + g := by
      rw [Nat.log2_lt hne, Nat.pow_add]
      exact Nat.mul_lt_mul_of_pos_right hlt (Nat.two_pow_pos g)
    exact Nat.dvd_trans (Nat.pow_dvd_pow 2 (by omega)) (Nat.dvd_mul_left _ _)
  · rw [← Nat.pow_add, Nat.log2_two_pow]
    exact Nat.pow_dvd_pow 2 (by omega)

theorem significand_le (num den : Nat) :
    divHalfEven num (den * Nat.pow 2 (gridOf (num / den))) ≤ Nat.pow 2 53 := by
  simp only [Nat.pow_eq]
  refine Nat.le_trans (divHalfEven_le _ _) ?_
  rw [← Nat.div_div_eq_div_mul, Nat.succ_le_iff, Nat.div_lt_iff_lt_mul (Nat.two_pow_pos _),
    ← Nat.pow_add]
  refine Nat.lt_of_lt_of_le Nat.lt_log2_self (Nat.pow_le_pow_right (by decide) ?_)
  unfold gridOf
  omega

theorem grid_dvd_nearestUnits (num den : Nat) :
    Nat.pow 2 (gridOf (nearestUnits num den)) ∣ nearestUnits num den :=
  grid_dvd_of_le (significand_le num den) _

/-- The number nearest to `num / den` units; what exceeds the largest number is infinite. -/
def ofUnits (negative : Bool) (num den : Nat) : Double :=
  if h : nearestUnits num den < overflow then
    .finite ⟨negative, nearestUnits num den, h, grid_dvd_nearestUnits num den⟩
  else .infinite negative

def ofInt (i : Int) : Double :=
  ofUnits (i < 0) (i.natAbs * one) 1

def signed (negative : Bool) (n : Nat) : Int :=
  if negative then -n else n

/-- The place of a number in the order; a NaN has none. -/
def rank? : Double → Option Int
  | .nan => none
  | .infinite negative => some (signed negative overflow)
  | .finite x => some (signed x.negative x.units)

def compare? (a b : Double) : Option Ordering :=
  match a.rank?, b.rank? with
  | some m, some n => some (compare m n)
  | _, _ => none

def isFinite : Double → Bool
  | .finite _ => true
  | _ => false

def Finite.whole (x : Finite) : Nat :=
  x.units / one

end Double

end DataGrid
