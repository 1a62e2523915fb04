import DataGrid.Proofs.Double.Layout
import DataGrid.Proofs.Memory.Compare
import DataGrid.Proofs.Memory.Like

namespace DataGrid

open Double Json

/-- Of the characters before `µ` the capitals alone are folded. -/
theorem Text.foldCase_of_not_capital {c : Char} (small : c.toNat < 0xB5)
    (plain : ¬ (0x41 ≤ c.toNat ∧ c.toNat ≤ 0x5A)) : foldCase c = c := by
  have starts : ∀ r ∈ foldRuns, 0x41 ≤ r.first ∧ (r.last ≤ 0x5A ∨ 0xB5 ≤ r.first) := by
    decide +kernel
  have none_covers : foldRuns.find? (·.covers c.toNat) = none := by
    rw [List.find?_eq_none]
    intro r member covers
    rw [FoldRun.covers, Bool.and_eq_true, Bool.and_eq_true, decide_eq_true_eq,
      decide_eq_true_eq] at covers
    have := starts r member
    omega
  rw [foldCase, none_covers]

theorem Double.NumberChar.foldCase_eq {c : Char} (h : NumberChar c) : Text.foldCase c = c := by
  have place : c.toNat < 0xB5 ∧ ¬ (0x41 ≤ c.toNat ∧ c.toNat ≤ 0x5A) := by
    rcases h with digit | mark
    · rw [Char.isDigit, Bool.and_eq_true, decide_eq_true_eq, decide_eq_true_eq] at digit
      have last : c.toNat ≤ 0x39 := UInt32.le_iff_toNat_le.mp digit.2
      omega
    · simp only [List.mem_cons, List.not_mem_nil, or_false] at mark
      rcases mark with rfl | rfl | rfl | rfl <;> decide
  exact Text.foldCase_of_not_capital place.1 place.2

theorem Double.NumberChar.plain {c : Char} (h : NumberChar c) : c ≠ '%' ∧ c ≠ '_' := by
  constructor <;> rintro rfl <;> exact absurd h (by decide)

theorem Pattern.cut_self (text : List Char) : Cut text text := by
  refine ⟨text.map ([·]), ?_, ?_⟩
  · induction text with
    | nil => rfl
    | cons c text ih => exact congrArg (c :: ·) ih
  · induction text with
    | nil => exact .nil
    | cons c text ih =>
      refine .cons ?_ ih
      by_cases percent : c = '%'
      · rw [percent]
        exact .run _
      · by_cases underscore : c = '_'
        · rw [underscore]
          exact .one _
        · exact .char percent underscore rfl

theorem Wildcard.Places.isInfix {w : Wildcard} {part text : List Char} (h : w.Places part text) :
    part <:+: text := by
  cases w with
  | both => exact h
  | trailing => exact List.IsPrefix.isInfix h
  | leading => exact List.IsSuffix.isInfix h

/-- A number that is written as an operand as it is in a row: an integer of 64 bits with a sign, or a
larger one that is the shortest decimal of the double nearest to it; and a double that is not whole,
not below 10⁻⁵ and not torn between two decimals. -/
inductive Json.Number.WrittenAlike : Json.Number → Prop
  | short {i : Json.Integer} : i.val < 2 ^ 63 → WrittenAlike (.int i)
  | long {i : Json.Integer} {y : Finite} :
    Double.ofInt i.val = .finite y → (shortest .up y.units).value = i.val → WrittenAlike (.int i)
  | broken {x : Finite} :
    (¬ ∃ n : Nat, |x.value| = n) → 10 ^ (-5 : ℤ) ≤ |x.value| →
    shortest .even x.units = shortest .up x.units → WrittenAlike (.real x)

/-- Where a value is found in its own text. A double that is whole has a mark at its end in a row, so
it is not found there at the end, but for zero. -/
inductive Json.FindsItself (w : Wildcard) : Json → Prop
  | bool (b : Bool) : FindsItself w (.bool b)
  | str (s : String) : FindsItself w (.str s)
  | alike {n : Json.Number} : n.WrittenAlike → FindsItself w (.num n)
  | marked {x : Finite} {n : Nat} :
    w ≠ .leading → |x.value| = n → n < 10 ^ 16 → FindsItself w (.num (.real x))
  | zero {x : Finite} : x.value = 0 → x.negative = false → FindsItself w (.num (.real x))

theorem Json.findsItself_real_iff {w : Wildcard} {x : Finite} :
    (Json.num (.real x)).FindsItself w ↔
      ((¬ ∃ n : Nat, |x.value| = n) ∧ 10 ^ (-5 : ℤ) ≤ |x.value| ∧
        shortest .even x.units = shortest .up x.units) ∨
      (w ≠ .leading ∧ ∃ n : Nat, |x.value| = n ∧ n < 10 ^ 16) ∨
      (x.value = 0 ∧ x.negative = false) := by
  constructor
  · intro finds
    cases finds with
    | alike written =>
      cases written with
      | broken broken large same => exact .inl ⟨broken, large, same⟩
    | marked other whole few => exact .inr (.inl ⟨other, _, whole, few⟩)
    | zero none positive => exact .inr (.inr ⟨none, positive⟩)
  · rintro (⟨broken, large, same⟩ | ⟨other, n, whole, few⟩ | ⟨none, positive⟩)
    · exact .alike (.broken broken large same)
    · exact .marked other whole few
    · exact .zero none positive

theorem Double.Finite.value_eq_zero_iff {x : Finite} : x.value = 0 ↔ x.units = 0 := by
  rw [← abs_eq_zero, ← size_eq_abs_value, size, div_eq_zero_iff, or_iff_left one_cast_pos.ne',
    Nat.cast_eq_zero]

/-- What is whole has a mark in a row, before which it is found, and nothing but zero behind it. -/
theorem places_marked_iff (w : Wildcard) {x : Finite} {n : Nat} (whole : size x.units = n) :
    w.Places (x.write .plain) (x.write .plain ++ ['.', '0']) ↔
      w ≠ .leading ∨ x.units = 0 ∧ x.negative = false := by
  cases w with
  | both => exact iff_of_true (List.prefix_append _ _).isInfix (.inl nofun)
  | trailing => exact iff_of_true (List.prefix_append _ _) (.inl nofun)
  | leading =>
    have text := write_plain_of_whole whole
    have nonempty : x.write .plain ≠ [] := by simp [text, Nat.toDigits_ne_nil]
    have noPoint : '.' ∉ x.write .plain := by
      rw [text, List.mem_append]
      rintro (sign | digits)
      · split at sign <;> simp at sign
      · exact ((Text.allDigits_toDigits _).append (allDigits_zeros _)).notMem rfl digits
    rw [← write_plain_eq_zero_iff whole, ← suffix_marked_iff nonempty noPoint]
    exact (or_iff_right fun other => other rfl).symm

/-- Doubles that are found in themselves are whole numbers below 10¹⁶, or are written alike. -/
theorem places_real_iff (w : Wildcard) (x : Finite) :
    w.Places (x.write .plain) (x.write .row) ↔ (Json.num (.real x)).FindsItself w := by
  have size_eq := size_eq_abs_value x
  rw [Json.findsItself_real_iff, Finite.value_eq_zero_iff, ← size_eq]
  by_cases whole : ∃ n : Nat, size x.units = n
  · obtain ⟨n, whole⟩ := whole
    rw [or_iff_right fun broken => broken.1 ⟨n, whole⟩]
    rcases lt_or_ge (size x.units) (10 ^ (16 : ℤ)) with small | large
    · have few : n < 10 ^ 16 := by
        rw [whole] at small
        exact_mod_cast small
      have given : ∃ m : Nat, size x.units = m ∧ m < 10 ^ 16 := ⟨n, whole, few⟩
      rw [write_row_of_whole whole small, places_marked_iff w whole, and_iff_left given]
    · refine iff_of_false (fun found => not_infix_of_large large found.isInfix) ?_
      rintro (⟨-, m, same, few⟩ | ⟨zero, -⟩)
      · rw [same] at large
        exact absurd few (not_lt.mpr (by exact_mod_cast large))
      · exact units_ne_zero_of_large large zero
  · have some := units_ne_zero_of_broken whole
    have rest : ¬ ((w ≠ .leading ∧ ∃ n : Nat, size x.units = n ∧ n < 10 ^ 16) ∨
        x.units = 0 ∧ x.negative = false) := by
      rintro (⟨-, n, same, -⟩ | ⟨zero, -⟩)
      · exact whole ⟨n, same⟩
      · exact some zero
    rw [or_iff_left rest, and_iff_right whole]
    rcases lt_or_ge (size x.units) (10 ^ (-5 : ℤ)) with small | large
    · exact iff_of_false (fun found => not_infix_of_small some small found.isInfix)
        fun finds => not_le.mpr small finds.1
    · rw [and_iff_right large]
      by_cases same : shortest .even x.units = shortest .up x.units
      · rw [write_row_eq whole large same]
        exact iff_of_true (w.places_self _) same
      · exact iff_of_false (fun found => not_infix_of_torn whole large same found.isInfix) same

section
variable {i : Json.Integer} {y : Finite}

theorem ten_pow_le_value {k : Nat} (rounded : Double.ofInt i.val = .finite y) (short : k ≤ 22)
    (large : (10 ^ k : Nat) ≤ i.val) : (10 : ℚ) ^ k ≤ y.value := by
  have digits : 5 ^ k ≤ 2 ^ 53 := (Nat.pow_le_pow_right (by decide) short).trans (by decide)
  obtain ⟨z, hz⟩ := exists_value_eq_mul_two_pow false digits (short.trans (by decide))
  have power : z.value = 10 ^ k := by
    rw [hz, signed, if_neg Bool.false_ne_true, ← Nat.mul_pow]
    push_cast
    rfl
  have nearest : IsNearest i.val (.finite y) := rounded ▸ isNearest_ofInt i.val
  rw [← power]
  apply nearest.le_value
  rw [power]
  exact_mod_cast large

/-- The operand of an integer of more than 63 bits is an integer, too, and has as many digits. -/
theorem exists_write_plain_eq (long : 2 ^ 63 ≤ i.val) (rounded : Double.ofInt i.val = .finite y) :
    ∃ d : Nat, y.write .plain = Nat.toDigits 10 d ∧ (shortest .up y.units).value = d ∧
      ∀ k : Nat, k ≤ 22 → (10 ^ k : Nat) ≤ i.val → 10 ^ k ≤ d := by
  have lower := ten_pow_le_value (k := 18) rounded (by decide) (Int.le_trans (by decide) long)
  have positive := Finite.negative_eq_false ((pow_pos (by norm_num) 18).trans_le lower)
  have sized : size y.units = y.value := (Finite.value_of_positive positive).symm
  have some : y.units ≠ 0 := units_ne_zero_of_large (k := 18) (by rw [sized]; exact_mod_cast lower)
  obtain ⟨n, whole⟩ := exists_size_eq_of_large (x := y) (by
    rw [sized]
    exact le_trans (by norm_num) lower)
  have value := Decimal.value_eq_natCast (place_nonneg_of_whole .up whole)
  have nonzero := (represents_shortest .up y.representable.2 some).digits_ne_zero
  refine ⟨_, ?_, value, fun k short large => ?_⟩
  · rw [write_plain_of_whole whole, positive, toDigits_append_zeros nonzero]
    rfl
  · have power := ten_pow_le_value rounded short large
    rw [← sized, ← zpow_natCast] at power
    have first := ten_zpow_le_value_shortest y.representable.2 .up some power
    rw [value, zpow_natCast] at first
    exact_mod_cast first

/-- An integer of more than 63 bits is written like the double nearest to it just when that double's
shortest decimal is the integer. -/
theorem places_long_iff (w : Wildcard) (long : 2 ^ 63 ≤ i.val)
    (rounded : Double.ofInt i.val = .finite y) :
    w.Places (y.write .plain) (Json.writeInt i.val) ↔ (shortest .up y.units).value = i.val := by
  obtain ⟨m, hm⟩ := Int.eq_ofNat_of_zero_le (Int.le_trans (by decide) long)
  obtain ⟨d, text, value, powers⟩ := exists_write_plain_eq long rounded
  have row_text : Json.writeInt i.val = Nat.toDigits 10 m := by
    rw [hm, Json.writeInt, if_neg (Int.natCast_nonneg m).not_gt, Int.natAbs_natCast]
  rw [text, row_text, value, hm, Int.cast_natCast, Nat.cast_inj]
  constructor
  · intro found
    have digits : 0 < (Nat.toDigits 10 m).length := Nat.length_toDigits_pos
    have most : (Nat.toDigits 10 m).length ≤ 20 := by
      rw [Nat.length_toDigits_le_iff (by decide) (by decide)]
      have := i.upper
      omega
    have first : 10 ^ ((Nat.toDigits 10 m).length - 1) ≤ m :=
      (pow_le_iff_lt_length_toDigits (by omega)).mpr (Nat.sub_one_lt_of_lt digits)
    have operand_first := powers ((Nat.toDigits 10 m).length - 1) (by omega)
      (by rw [hm]; exact_mod_cast first)
    have power : 0 < 10 ^ ((Nat.toDigits 10 m).length - 1) := Nat.pow_pos (by decide)
    have lengths : (Nat.toDigits 10 m).length ≤ (Nat.toDigits 10 d).length :=
      Nat.le_of_pred_lt ((pow_le_iff_lt_length_toDigits (power.trans_le operand_first)).mp
        operand_first)
    exact Text.toDigits_inj
      (found.isInfix.eq_of_length (Nat.le_antisymm found.isInfix.length_le lengths))
  · rintro rfl
    exact w.places_self _

end

theorem exists_places_number_iff (n : Json.Number) : ∃ pattern : List Char,
    (Operand.ofNumber n).text? = some (String.ofList pattern) ∧ (∀ c ∈ pattern, NumberChar c) ∧
      (∀ c ∈ n.write, NumberChar c) ∧
      ∀ w : Wildcard, w.Places pattern n.write ↔ (Json.num n).FindsItself w := by
  cases n with
  | real x =>
    exact ⟨x.write .plain, rfl, numberChar_write x .plain, numberChar_write x .row,
      fun w => places_real_iff w x⟩
  | int i =>
    cases fits : (Json.Number.int i).toInt64? with
    | some s =>
      obtain ⟨_, ⟨⟩, same⟩ := Json.Number.toInt_of_toInt64? fits
      have short : i.val < 2 ^ 63 := same ▸ Int64.toInt_lt s
      refine ⟨Json.writeInt i.val, ?_, numberChar_writeInt _, numberChar_writeInt _,
        fun w => iff_of_true (w.places_self _) (.alike (.short short))⟩
      rw [Operand.ofNumber, fits, same]
      rfl
    | none =>
      have long : 2 ^ 63 ≤ i.val := Json.Number.toInt64?_eq_none_iff.mp fits
      have size : |i.val| < 2 ^ 64 := abs_lt.mpr ⟨lt_of_lt_of_le (by decide) i.lower, i.upper⟩
      have small : |(i.val : ℚ)| < limit :=
        lt_of_lt_of_le (by exact_mod_cast size) (two_pow_le_limit (k := 64) (by decide))
      obtain ⟨y, rounded⟩ := (isNearest_ofInt i.val).exists_finite small
      refine ⟨y.write .plain, ?_, numberChar_write y .plain, numberChar_writeInt _,
        fun w => (places_long_iff w long rounded).trans
          ⟨fun same => .alike (.long rounded same), ?_⟩⟩
      · rw [Operand.ofNumber, fits]
        dsimp only
        rw [Json.Number.toDouble, rounded]
        rfl
      · intro finds
        cases finds with
        | alike written =>
          cases written with
          | short short => exact absurd short (not_lt.mpr long)
          | long other same =>
            cases rounded.symm.trans other
            exact same

theorem Pattern.cut_wrap_self (w : Wildcard) (text : String) :
    Cut (w.wrap text).toList text.toList :=
  (cut_wrap_iff w text text.toList).mpr ⟨text.toList, w.places_self _, cut_self _⟩

theorem Pattern.cut_wrap_iff_of_numberChar (w : Wildcard) {part text : List Char}
    (part_chars : ∀ c ∈ part, NumberChar c) (text_chars : ∀ c ∈ text, NumberChar c) :
    Cut (w.wrap (String.ofList part)).toList text ↔ w.Places part text := by
  have same {s : List Char} (chars : ∀ c ∈ s, NumberChar c) : s.map Text.foldCase = s := by
    rw [List.map_congr_left fun c member => (chars c member).foldCase_eq, List.map_id']
  rw [cut_wrap_iff_of_plain w text (by
    rw [String.toList_ofList]
    exact fun c member => (part_chars c member).plain), String.toList_ofList, same part_chars,
    same text_chars]

namespace Memory

/-- A scalar's text as an operand cuts its text in a row just when it is found in itself. -/
theorem exists_cut_own_iff {v : Json} (scalar : v.kind ∈ ["boolean", "number", "string"]) :
    ∃ operand pattern text, Operand.ofJson? v = some operand ∧ operand.text? = some pattern ∧
      text? v = some text ∧
      ∀ w : Wildcard, Pattern.Cut (w.wrap pattern).toList text.toList ↔ v.FindsItself w := by
  cases v with
  | bool b =>
    exact ⟨_, _, _, rfl, rfl, rfl, fun w => iff_of_true (Pattern.cut_wrap_self w _) (.bool b)⟩
  | str s =>
    exact ⟨_, _, _, rfl, rfl, rfl, fun w => iff_of_true (Pattern.cut_wrap_self w _) (.str s)⟩
  | num n =>
    obtain ⟨pattern, written, pattern_chars, text_chars, places⟩ := exists_places_number_iff n
    refine ⟨_, _, _, rfl, written, rfl, fun w => ?_⟩
    rw [Json.Number.text, String.toList_ofList,
      Pattern.cut_wrap_iff_of_numberChar w pattern_chars text_chars, places]
  | null => exact absurd scalar (by decide)
  | arr _ => exact absurd scalar (by simp [Json.kind])
  | obj _ => exact absurd scalar (by simp [Json.kind])

/-- A truth value, a number or a text that a field holds is looked for there as an operand. Unless its
pattern is too large to build, the row is kept just when the value is found in itself: always when it
is no number or is written alike in both places, and otherwise only when it is whole and below 10¹⁶,
and then not at the end unless it is zero. The negation keeps the other rows. -/
theorem scalar_finds_itself_unless_written_apart (joiner : Joiner) (field : String) {v : Json}
    (scalar : v.kind ∈ ["boolean", "number", "string"]) :
    ∃ operand pattern, Operand.ofJson? v = some operand ∧ operand.text? = some pattern ∧
      (∀ name w, (name, w) ∈ Operator.seeking →
        Pattern.compiles (Pattern.pieces (w.wrap pattern)) = true →
        ∃ q, Query.filter {} joiner (.leaf ⟨field, name, operand⟩) = .ok q ∧
          ∀ row, row.get? field = some v → ∀ rows,
            (row ∈ kept rows q ↔ row ∈ rows ∧ v.FindsItself w)) ∧
      (Pattern.compiles (Pattern.pieces (Wildcard.both.wrap pattern)) = true →
        ∃ q, Query.filter {} joiner (.leaf ⟨field, "notContains", operand⟩) = .ok q ∧
          ∀ row, row.get? field = some v → ∀ rows,
            (row ∈ kept rows q ↔ row ∈ rows ∧ ¬ v.FindsItself .both)) := by
  obtain ⟨operand, pattern, text, read, written, own, cut⟩ := exists_cut_own_iff scalar
  have proper : v ≠ .null := by
    rintro rfl
    cases own
  have shown {row : Json} (held : row.get? field = some v) : shown? field row = some text := by
    rw [shown?, present?_eq_some held proper, Option.bind_some, own]
  have matched {w : Wildcard} (built : Pattern.compiles (Pattern.pieces (w.wrap pattern)) = true) :
      Pattern.isMatch (w.wrap pattern) text = true ↔ v.FindsItself w := by
    rw [Pattern.isMatch_iff, and_iff_right built, cut]
  refine ⟨operand, pattern, read, written, fun name w named built => ?_, fun built => ?_⟩
  · obtain ⟨q, added, keeps⟩ := exists_kept_of_resolve joiner
      (Filter.resolve_eq_wrapped (Operator.ofName?_of_seeking named) field written)
    refine ⟨q, added, fun row held rows => ?_⟩
    rw [keeps, evaluate_like (Operand.text?_str _), shown held, Option.any_some, matched built]
  · have known : Operator.ofName? "notContains" = some ⟨"notContains", .notLike, some .both⟩ := rfl
    obtain ⟨q, added, keeps⟩ :=
      exists_kept_of_resolve joiner (Filter.resolve_eq_wrapped known field written)
    refine ⟨q, added, fun row held rows => ?_⟩
    rw [keeps, evaluate_notLike (Operand.text?_str _), shown held, Option.any_some,
      Bool.not_eq_true', ← matched built, Bool.not_eq_true]

/-- Wildcards in a text find themselves. -/
theorem halfOff_ends_with_itself :
    let row : Json := .obj [("a", .str "50%_off")]
    ∃ q, Query.filter {} .and (.leaf ⟨"a", "endsWith", .str "50%_off"⟩) = .ok q ∧
      row ∈ kept [row] q := by
  intro row
  obtain ⟨operand, pattern, read, written, found, -⟩ :=
    scalar_finds_itself_unless_written_apart .and "a" (v := .str "50%_off") (by decide)
  cases read
  cases written
  obtain ⟨q, added, keeps⟩ := found "endsWith" .leading (by decide) (by decide)
  exact ⟨q, added, (keeps row rfl [row]).mpr ⟨List.mem_singleton_self row, .str _⟩⟩

def two : Finite :=
  ⟨false, 2 * 2 ^ 0 * one, representable_mul_two_pow (by decide) (Nat.zero_le _)⟩

/-- Two does not end with itself: in a row it is written `2.0`, as an operand `2`. -/
theorem two_does_not_end_with_itself :
    let row : Json := .obj [("n", .num (.real two))]
    ∃ operand q, Operand.ofJson? (.num (.real two)) = some operand ∧
      Query.filter {} .and (.leaf ⟨"n", "endsWith", operand⟩) = .ok q ∧ row ∉ kept [row] q := by
  intro row
  have named : ("endsWith", .leading) ∈ Operator.seeking := by decide
  have written : (Operand.float (.finite two)).text? = some (plainText (.finite two)) := rfl
  obtain ⟨q, added, keeps⟩ := exists_kept_of_resolve .and
    (Filter.resolve_eq_wrapped (Operator.ofName?_of_seeking named) "n" written)
  refine ⟨_, q, rfl, added, fun member => ?_⟩
  exact absurd ((keeps [row] row).mp member).2 (by decide +kernel)

end Memory

end DataGrid
