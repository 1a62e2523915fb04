import DataGrid.Double.Layout
import DataGrid.Json.Printer
import DataGrid.Proofs.Double.Place

namespace DataGrid

namespace Text

theorem infix_or_infix_of_notMem {p a b : List Char} {x : Char} (found : p <:+: a ++ x :: b)
    (none : x ∉ p) : p <:+: a ∨ p <:+: b := by
  obtain ⟨s, t, split⟩ := found
  rcases List.append_eq_append_iff.mp split with ⟨rest, rfl, -⟩ | ⟨rest, start, tail⟩
  · exact .inl ⟨s, rest, rfl⟩
  · cases rest with
    | nil => exact .inl ⟨s, [], by rw [start, List.append_nil, List.append_nil]⟩
    | cons y rest =>
      obtain ⟨rfl, rfl⟩ := List.cons.inj tail
      right
      rcases List.append_eq_append_iff.mp start with ⟨c, -, rfl⟩ | ⟨c, -, last⟩
      · exact absurd (List.mem_append_right c List.mem_cons_self) none
      · cases c with
        | nil =>
          rw [List.nil_append] at last
          rw [← last] at none
          exact absurd List.mem_cons_self none
        | cons z c =>
          obtain ⟨-, rfl⟩ := List.cons.inj last
          exact ⟨c, t, rfl⟩

def AllDigits (s : List Char) : Prop :=
  ∀ c ∈ s, c.isDigit = true

theorem allDigits_toDigits (n : Nat) : AllDigits (Nat.toDigits 10 n) := fun _ member =>
  Nat.isDigit_of_mem_toDigits (by decide) (by decide) member

theorem AllDigits.append {a b : List Char} (ha : AllDigits a) (hb : AllDigits b) :
    AllDigits (a ++ b) := by
  intro c member
  exact (List.mem_append.mp member).elim (ha c) (hb c)

theorem AllDigits.notMem {s : List Char} (h : AllDigits s) {c : Char} (other : c.isDigit = false) :
    c ∉ s := by
  intro member
  rw [h c member] at other
  cases other

/-- No digits start with a zero but those of zero. -/
theorem exists_toDigits_eq_cons {n : Nat} (some : n ≠ 0) :
    ∃ c rest, Nat.toDigits 10 n = c :: rest ∧ c ≠ '0' := by
  induction n using Nat.strongRecOn with
  | ind n ih =>
    rcases Nat.lt_or_ge n 10 with short | long
    · refine ⟨n.digitChar, [], Nat.toDigits_of_lt_base short, ?_⟩
      rw [ne_eq, Nat.digitChar_eq_zero]
      exact some
    · obtain ⟨c, rest, digits, first⟩ := ih (n / 10) (by omega) (by omega)
      refine ⟨c, rest ++ [(n % 10).digitChar], ?_, first⟩
      rw [Nat.toDigits_of_base_le (by decide) long, digits, List.cons_append]

end Text

namespace Double

open Text

theorem allDigits_zeros (n : Nat) : AllDigits (zeros n) := by
  intro c member
  rw [List.eq_of_mem_replicate member]
  rfl

theorem toDigits_append_zeros {n : Nat} (some : n ≠ 0) (k : Nat) :
    Nat.toDigits 10 n ++ zeros k = Nat.toDigits 10 (n * 10 ^ k) := by
  induction k with
  | zero => rw [zeros, List.replicate_zero, List.append_nil, Nat.pow_zero, Nat.mul_one]
  | succ k ih =>
    have positive : 0 < n * 10 ^ k := Nat.mul_pos (Nat.pos_of_ne_zero some) (Nat.pow_pos (by decide))
    have next := Nat.toDigits_append_toDigits (b := 10) (d := 0) (by decide) positive (by decide)
    have product : n * 10 ^ (k + 1) = 10 * (n * 10 ^ k) + 0 := by ring
    rw [product, ← next, ← ih, zeros, List.replicate_succ', List.append_assoc, Nat.toDigits_zero]
    rfl

namespace Layout

theorem pointed_plain_of_nonneg (digits : List Char) {place : ℤ} (whole : 0 ≤ place) :
    plain.pointed digits place = digits ++ zeros place.toNat := by
  rw [pointed, if_pos whole]
  exact List.append_nil _

theorem pointed_row_of_nonneg (digits : List Char) {place : ℤ} (whole : 0 ≤ place) :
    row.pointed digits place = plain.pointed digits place ++ ['.', '0'] := by
  rw [pointed_plain_of_nonneg _ whole, pointed, if_pos whole]
  rfl

theorem pointed_row_of_neg (digits : List Char) {place : ℤ} (broken : place < 0) :
    row.pointed digits place = plain.pointed digits place := by
  rw [pointed, pointed, if_neg (not_le.mpr broken), if_neg (not_le.mpr broken)]

theorem pointed_plain_of_lt {digits : List Char} {place : ℤ} (broken : place < 0)
    (long : (-place).toNat < digits.length) : plain.pointed digits place =
      digits.take (digits.length - (-place).toNat) ++
        '.' :: digits.drop (digits.length - (-place).toNat) := by
  rw [pointed, if_neg (not_le.mpr broken)]
  exact if_pos long

theorem pointed_plain_of_le {digits : List Char} {place : ℤ} (broken : place < 0)
    (short : digits.length ≤ (-place).toNat) : plain.pointed digits place =
      '0' :: '.' :: zeros ((-place).toNat - digits.length) ++ digits := by
  rw [pointed, if_neg (not_le.mpr broken)]
  exact if_neg (not_lt.mpr short)

theorem length_pointed_plain {d : Decimal} (broken : d.place < 0) :
    ((plain.pointed (Nat.toDigits 10 d.digits) d.place).length : ℤ) =
      max d.exponent 0 + 2 - d.place := by
  rw [d.exponent_eq]
  generalize Nat.toDigits 10 d.digits = digits
  generalize d.place = place at broken ⊢
  rcases Nat.lt_or_ge (-place).toNat digits.length with long | short
  · rw [pointed_plain_of_lt broken long, List.length_append, List.length_cons, List.length_take,
      List.length_drop]
    omega
  · rw [pointed_plain_of_le broken short, List.length_append, List.length_cons, List.length_cons,
      zeros, List.length_replicate]
    omega

theorem pointed_plain_inj {a b : List Char} {place : ℤ} (broken : place < 0)
    (length_eq : a.length = b.length) (same : plain.pointed a place = plain.pointed b place) :
    a = b := by
  rcases Nat.lt_or_ge (-place).toNat a.length with long | short
  · rw [pointed_plain_of_lt broken long, pointed_plain_of_lt broken (length_eq ▸ long),
      length_eq] at same
    obtain ⟨start, rest⟩ := List.append_inj same (by rw [List.length_take, List.length_take, length_eq])
    rw [← List.take_append_drop (b.length - (-place).toNat) a, start, (List.cons.inj rest).2,
      List.take_append_drop]
  · rw [pointed_plain_of_le broken short, pointed_plain_of_le broken (length_eq ▸ short),
      length_eq] at same
    exact List.append_cancel_left same

end Layout

theorem scientific_cons (c : Char) (rest : List Char) (exponent : ℤ) :
    scientific (c :: rest) exponent =
      (c :: if rest = [] then [] else '.' :: rest) ++
        'e' :: (if exponent < 0 then '-' else '+') :: Nat.toDigits 10 exponent.natAbs := by
  cases rest <;> rfl

/-- Digits that are found in a text with an exponent lie before the point, behind it or in the
exponent. -/
theorem length_of_infix_scientific {part rest : List Char} {c : Char} {exponent : ℤ}
    (all : AllDigits part) (found : part <:+: scientific (c :: rest) exponent) :
    part.length ≤ 1 ∨ part.length ≤ rest.length ∨
      part.length ≤ (Nat.toDigits 10 exponent.natAbs).length := by
  rw [scientific_cons] at found
  rcases infix_or_infix_of_notMem found (all.notMem rfl) with mantissa | power
  · by_cases single : rest = []
    · rw [if_pos single] at mantissa
      exact .inl mantissa.length_le
    · rw [if_neg single] at mantissa
      rcases infix_or_infix_of_notMem (a := [c]) mantissa (all.notMem rfl) with before | behind
      · exact .inl before.length_le
      · exact .inr (.inl behind.length_le)
  · have sign : (if exponent < 0 then '-' else '+').isDigit = false := by split <;> rfl
    rcases infix_or_infix_of_notMem (a := []) power (all.notMem sign) with none | digits
    · exact .inl (none.length_le.trans (Nat.zero_le _))
    · exact .inr (.inr digits.length_le)

/-- No point in a text with an exponent stands behind a zero. -/
theorem not_infix_scientific {c : Char} {rest : List Char} (first : c ≠ '0') (all : AllDigits rest)
    (exponent : ℤ) : ¬ ['0', '.'] <:+: scientific (c :: rest) exponent := by
  intro found
  rw [scientific_cons] at found
  have point {s : List Char} (inside : ['0', '.'] <:+: s) : '.' ∈ s := by
    apply inside.subset
    simp
  rcases infix_or_infix_of_notMem found (by decide) with mantissa | power
  · by_cases single : rest = []
    · rw [if_pos single] at mantissa
      exact absurd mantissa.length_le (by simp)
    · rw [if_neg single] at mantissa
      rcases List.infix_cons_iff.mp mantissa with start | later
      · exact first (List.cons_prefix_cons.mp start).1.symm
      · rcases List.infix_cons_iff.mp later with start | behind
        · exact absurd (List.cons_prefix_cons.mp start).1 (by decide)
        · exact all.notMem rfl (point behind)
  · rcases List.mem_cons.mp (point power) with sign | digits
    · split at sign <;> exact absurd sign (by decide)
    · exact (allDigits_toDigits _).notMem rfl digits

theorem magnitude_plain (units : Nat) : Layout.plain.magnitude units =
    Layout.plain.pointed (Nat.toDigits 10 (shortest .up units).digits) (shortest .up units).place :=
  rfl

theorem usesPoint_row_iff (exponent : ℤ) :
    Layout.row.usesPoint exponent = true ↔ -5 ≤ exponent ∧ exponent < 16 := by
  simp [Layout.usesPoint, Layout.row]

theorem magnitude_row_of_usesPoint {units : Nat}
    (fits : -5 ≤ (shortest .even units).exponent ∧ (shortest .even units).exponent < 16) :
    Layout.row.magnitude units = Layout.row.pointed (Nat.toDigits 10 (shortest .even units).digits)
      (shortest .even units).place :=
  if_pos ((usesPoint_row_iff _).mpr fits)

theorem magnitude_row_of_not_usesPoint {units : Nat}
    (past : ¬ (-5 ≤ (shortest .even units).exponent ∧ (shortest .even units).exponent < 16)) :
    Layout.row.magnitude units = scientific (Nat.toDigits 10 (shortest .even units).digits)
      (shortest .even units).exponent :=
  if_neg fun uses => past ((usesPoint_row_iff _).mp uses)

theorem infix_of_infix_sign {negative : Bool} {part text : List Char} (unsigned : '-' ∉ part)
    (some : part ≠ []) (found : part <:+: (if negative then ['-'] else []) ++ text) :
    part <:+: text := by
  cases negative with
  | false => exact found
  | true =>
    rcases infix_or_infix_of_notMem (a := []) found unsigned with none | behind
    · exact absurd (List.infix_nil.mp none) some
    · exact behind

section
variable {x : Finite}

theorem units_ne_zero_of_large {k : ℤ} (large : 10 ^ k ≤ size x.units) : x.units ≠ 0 := by
  intro zero
  have none : size x.units = 0 := by rw [size, zero, Nat.cast_zero, zero_div]
  rw [none] at large
  exact absurd (ten_zpow_pos k) (not_lt.mpr large)

theorem write_row_of_whole {n : Nat} (whole : size x.units = n)
    (small : size x.units < 10 ^ (16 : ℤ)) : x.write .row = x.write .plain ++ ['.', '0'] := by
  have texts : Layout.row.magnitude x.units = Layout.plain.magnitude x.units ++ ['.', '0'] := by
    by_cases zero : x.units = 0
    · rw [zero]
      rfl
    · have grid := x.representable.2
      have low := le_exponent_shortest grid .even zero (one_le_size zero whole)
      have high := exponent_shortest_lt grid .even zero small
      have place := (place_nonneg_iff grid .even zero).mpr ⟨n, whole⟩
      rw [magnitude_row_of_usesPoint ⟨by omega, high⟩, Layout.pointed_row_of_nonneg _ place,
        shortest_eq_of_whole grid zero whole small, magnitude_plain]
  rw [Finite.write, Finite.write, texts, List.append_assoc]

theorem size_lt_of_broken (broken : ¬ ∃ n : Nat, size x.units = n) : size x.units < 10 ^ (16 : ℤ) := by
  by_contra large
  apply broken
  apply exists_size_eq_of_large
  exact le_trans (by norm_num) (not_lt.mp large)

theorem units_ne_zero_of_broken (broken : ¬ ∃ n : Nat, size x.units = n) : x.units ≠ 0 := by
  intro zero
  exact broken ⟨0, by rw [size, zero, Nat.cast_zero, zero_div]⟩

theorem place_neg_of_broken (tie : Tie) (broken : ¬ ∃ n : Nat, size x.units = n) :
    (shortest tie x.units).place < 0 := by
  by_contra whole
  apply broken
  exact (place_nonneg_iff x.representable.2 tie (units_ne_zero_of_broken broken)).mp (not_lt.mp whole)

theorem write_row_eq (broken : ¬ ∃ n : Nat, size x.units = n)
    (large : 10 ^ (-5 : ℤ) ≤ size x.units)
    (same : shortest .even x.units = shortest .up x.units) : x.write .row = x.write .plain := by
  have grid := x.representable.2
  have some := units_ne_zero_of_large large
  have low := le_exponent_shortest grid .even some large
  have high := exponent_shortest_lt grid .even some (size_lt_of_broken broken)
  rw [Finite.write, Finite.write, magnitude_row_of_usesPoint ⟨low, high⟩,
    Layout.pointed_row_of_neg _ (place_neg_of_broken .even broken), same, magnitude_plain]

/-- A number with an exponent in rows has more digits without it than stand together there. -/
theorem not_infix_of_large (large : 10 ^ (16 : ℤ) ≤ size x.units) :
    ¬ x.write .plain <:+: x.write .row := by
  intro found
  have grid := x.representable.2
  have some := units_ne_zero_of_large large
  have whole := exists_size_eq_of_large (le_trans (by norm_num) large)
  have up_place := (place_nonneg_iff grid .up some).mpr whole
  have even_place := (place_nonneg_iff grid .even some).mpr whole
  have past := le_exponent_shortest grid .even some large
  have exponents := exponent_shortest_eq grid some
  have all : AllDigits (Nat.toDigits 10 (shortest .up x.units).digits ++
      zeros (shortest .up x.units).place.toNat) :=
    (allDigits_toDigits _).append (allDigits_zeros _)
  have nonempty : Nat.toDigits 10 (shortest .up x.units).digits ++
      zeros (shortest .up x.units).place.toNat ≠ [] := by simp [Nat.toDigits_ne_nil]
  rw [Finite.write, Finite.write, magnitude_row_of_not_usesPoint (by omega), magnitude_plain,
    Layout.pointed_plain_of_nonneg _ up_place] at found
  replace found := infix_of_infix_sign (all.notMem rfl) nonempty
    ((List.suffix_append _ _).isInfix.trans found)
  obtain ⟨c, rest, digits, -⟩ :=
    exists_toDigits_eq_cons (represents_shortest .even grid some).digits_ne_zero
  rw [digits] at found
  have lengths := length_of_infix_scientific all found
  have power : (Nat.toDigits 10 (shortest .even x.units).exponent.natAbs).length ≤
      (shortest .even x.units).exponent.natAbs := by
    rw [Nat.length_toDigits_le_iff (by decide) (by omega)]
    exact Nat.lt_pow_self (by decide)
  have up_length := (shortest .up x.units).exponent_eq
  have even_length := (shortest .even x.units).exponent_eq
  rw [digits, List.length_cons] at even_length
  rw [List.length_append, zeros, List.length_replicate] at lengths
  omega

/-- Without an exponent a small number starts with a zero before the point, with one it does not. -/
theorem not_infix_of_small (some : x.units ≠ 0) (small : size x.units < 10 ^ (-5 : ℤ)) :
    ¬ x.write .plain <:+: x.write .row := by
  intro found
  have grid := x.representable.2
  have up_exponent := exponent_shortest_lt_of_lt grid .up some small
  have even_exponent := exponent_shortest_lt_of_lt grid .even some small
  have length := (shortest .up x.units).exponent_eq
  have start : ['0', '.'] <+: Layout.plain.magnitude x.units := by
    rw [magnitude_plain, Layout.pointed_plain_of_le (by omega) (by omega)]
    exact ⟨_, rfl⟩
  rw [Finite.write, Finite.write, magnitude_row_of_not_usesPoint (by omega)] at found
  replace found := infix_of_infix_sign (by decide) (by decide)
    (start.isInfix.trans ((List.suffix_append _ _).isInfix.trans found))
  obtain ⟨c, rest, digits, first⟩ :=
    exists_toDigits_eq_cons (represents_shortest .even grid some).digits_ne_zero
  have all : AllDigits rest := fun d member =>
    allDigits_toDigits _ d (digits ▸ List.mem_cons_of_mem c member)
  rw [digits] at found
  exact not_infix_scientific first all _ found

/-- Two decimals that a number is torn between are written in texts of one length at most. -/
theorem not_infix_of_torn (broken : ¬ ∃ n : Nat, size x.units = n)
    (large : 10 ^ (-5 : ℤ) ≤ size x.units)
    (apart : shortest .even x.units ≠ shortest .up x.units) :
    ¬ x.write .plain <:+: x.write .row := by
  intro found
  have grid := x.representable.2
  have some := units_ne_zero_of_large large
  have torn := (eq_or_torn grid some).resolve_left apart
  have low := le_exponent_shortest grid .even some large
  have high := exponent_shortest_lt grid .even some (size_lt_of_broken broken)
  have up_place := place_neg_of_broken .up broken
  have even_place := place_neg_of_broken .even broken
  rw [Finite.write, Finite.write, magnitude_row_of_usesPoint ⟨low, high⟩,
    Layout.pointed_row_of_neg _ even_place, magnitude_plain] at found
  have inside := found.length_le
  rw [List.length_append, List.length_append] at inside
  have up_length := Layout.length_pointed_plain up_place
  have even_length := Layout.length_pointed_plain even_place
  have exponents := torn.exponent_eq
  have places := torn.place_le
  rw [exponents] at even_length
  have place_eq : (shortest .even x.units).place = (shortest .up x.units).place := by omega
  have texts := List.append_cancel_left (found.eq_of_length (by
    rw [List.length_append, List.length_append]
    omega))
  have digits_length : (Nat.toDigits 10 (shortest .up x.units).digits).length =
      (Nat.toDigits 10 (shortest .even x.units).digits).length := by
    have up_exponent := (shortest .up x.units).exponent_eq
    have even_exponent := (shortest .even x.units).exponent_eq
    omega
  rw [place_eq] at texts
  have digits := toDigits_inj (Layout.pointed_plain_inj up_place digits_length texts)
  have step := torn.value_eq
  rw [Decimal.value, Decimal.value, place_eq, digits, left_eq_add] at step
  exact absurd step (ten_zpow_pos _).ne'

/-- Only a single zero ends in what is marked as whole. -/
theorem suffix_marked_iff {text : List Char} (some : text ≠ []) (noPoint : '.' ∉ text) :
    text <:+ text ++ ['.', '0'] ↔ text = ['0'] := by
  constructor
  · intro last
    rw [← List.reverse_prefix, List.reverse_append] at last
    have reversed : text.reverse ≠ [] := by simpa using some
    obtain ⟨c, rest, split⟩ := List.exists_cons_of_ne_nil reversed
    rw [split] at last
    obtain ⟨rfl, after⟩ := List.cons_prefix_cons.mp last
    cases rest with
    | nil => simpa using split
    | cons d rest =>
      obtain ⟨rfl, -⟩ := List.cons_prefix_cons.mp after
      have point : '.' ∈ text := by
        rw [← List.mem_reverse, split]
        exact List.mem_cons_of_mem _ List.mem_cons_self
      exact absurd point noPoint
  · rintro rfl
    exact ⟨['0', '.'], rfl⟩

theorem place_nonneg_of_whole (tie : Tie) {n : Nat} (whole : size x.units = n) :
    0 ≤ (shortest tie x.units).place := by
  by_cases zero : x.units = 0
  · rw [zero]
    exact Int.le_refl 0
  · exact (place_nonneg_iff x.representable.2 tie zero).mpr ⟨n, whole⟩

theorem write_plain_of_whole {n : Nat} (whole : size x.units = n) :
    x.write .plain = (if x.negative then ['-'] else []) ++
      (Nat.toDigits 10 (shortest .up x.units).digits ++ zeros (shortest .up x.units).place.toNat) := by
  rw [Finite.write, magnitude_plain,
    Layout.pointed_plain_of_nonneg _ (place_nonneg_of_whole .up whole)]

theorem write_plain_eq_zero_iff {n : Nat} (whole : size x.units = n) :
    x.write .plain = ['0'] ↔ x.units = 0 ∧ x.negative = false := by
  constructor
  · intro text
    rw [write_plain_of_whole whole] at text
    cases negative : x.negative with
    | true =>
      rw [negative] at text
      exact absurd (List.cons.inj text).1 (by decide)
    | false =>
      refine ⟨?_, rfl⟩
      rw [negative] at text
      obtain ⟨c, rest, digits⟩ := List.exists_cons_of_ne_nil
        (Nat.toDigits_ne_nil (b := 10) (n := (shortest .up x.units).digits))
      rw [digits] at text
      obtain ⟨rfl, more⟩ := List.cons.inj text
      rw [(List.append_eq_nil_iff.mp more).1, ← Nat.toDigits_zero 10] at digits
      by_contra some
      exact (represents_shortest .up x.representable.2 some).digits_ne_zero (toDigits_inj digits)
  · rintro ⟨zero, positive⟩
    rw [Finite.write, zero, positive]
    rfl

def NumberChar (c : Char) : Prop :=
  c.isDigit = true ∨ c ∈ ['-', '+', '.', 'e']

instance : DecidablePred NumberChar := fun c =>
  inferInstanceAs (Decidable (c.isDigit = true ∨ c ∈ ['-', '+', '.', 'e']))

theorem numberChar_toDigits (n : Nat) : ∀ c ∈ Nat.toDigits 10 n, NumberChar c := fun c member =>
  .inl (allDigits_toDigits n c member)

theorem numberChar_zeros (n : Nat) : ∀ c ∈ zeros n, NumberChar c := fun c member =>
  .inl (allDigits_zeros n c member)

theorem numberChar_pointed (l : Layout) {digits : List Char} (all : ∀ c ∈ digits, NumberChar c)
    (place : ℤ) : ∀ c ∈ l.pointed digits place, NumberChar c := by
  have point : NumberChar '.' := .inr (by decide)
  have zero : NumberChar '0' := .inl rfl
  unfold Layout.pointed
  split
  · rw [List.forall_mem_append, List.forall_mem_append]
    refine ⟨⟨all, numberChar_zeros _⟩, ?_⟩
    split <;> simp [point, zero]
  · dsimp only
    split
    · rw [List.forall_mem_append, List.forall_mem_cons]
      exact ⟨fun c member => all c (List.mem_of_mem_take member), point, fun c member =>
        all c (List.mem_of_mem_drop member)⟩
    · rw [List.forall_mem_append, List.forall_mem_cons, List.forall_mem_cons]
      exact ⟨⟨zero, point, numberChar_zeros _⟩, all⟩

theorem numberChar_scientific {digits : List Char} (all : ∀ c ∈ digits, NumberChar c)
    (exponent : ℤ) : ∀ c ∈ scientific digits exponent, NumberChar c := by
  have mark : NumberChar 'e' := .inr (by decide)
  have point : NumberChar '.' := .inr (by decide)
  have sign : NumberChar (if exponent < 0 then '-' else '+') := by
    split <;> exact .inr (by decide)
  unfold scientific
  dsimp only
  rw [List.forall_mem_append, List.forall_mem_cons, List.forall_mem_cons]
  refine ⟨?_, mark, sign, numberChar_toDigits _⟩
  split
  · rw [List.forall_mem_cons] at all ⊢
    rw [List.forall_mem_cons]
    exact ⟨all.1, point, all.2⟩
  · exact all

theorem numberChar_write (x : Finite) (l : Layout) : ∀ c ∈ x.write l, NumberChar c := by
  unfold Finite.write Layout.magnitude
  rw [List.forall_mem_append]
  constructor
  · split
    · simp [NumberChar]
    · nofun
  · dsimp only
    split
    · exact numberChar_pointed l (numberChar_toDigits _) _
    · exact numberChar_scientific (numberChar_toDigits _) _

theorem numberChar_writeInt (i : ℤ) : ∀ c ∈ Json.writeInt i, NumberChar c := by
  unfold Json.writeInt
  split
  · rw [List.forall_mem_cons]
    exact ⟨.inr (by decide), numberChar_toDigits _⟩
  · exact numberChar_toDigits _

end

end Double

end DataGrid
