import DataGrid.Window

namespace DataGrid.Window

/-- What a client gives as a bound is read, and stands for `n`. -/
def Stands (raw : Option Json) (n : Nat) : Prop :=
  ∃ bound, readBound raw = .ok bound ∧ bound.getD 0 = n

theorem readBound_ofNat {n : Nat} (le : n ≤ maxBound) : readBound (some (.ofNat n)) = .ok (some n) := by
  have whole : min n 0xFFFFFFFFFFFFFFFF = n := Nat.min_eq_left le
  have read : readBound (some (.ofNat n)) = .ok (some (min n 0xFFFFFFFFFFFFFFFF)) := by
    rw [Json.ofNat, readBound, Json.Number.toNat?]
    dsimp only
    rw [if_pos (Int.natCast_nonneg _), Int.toNat_natCast]
  rwa [whole] at read

theorem stands_ofNat {n : Nat} (le : n ≤ maxBound) : Stands (some (.ofNat n)) n :=
  ⟨some n, readBound_ofNat le, rfl⟩

theorem bound_eq_ok_iff {name : Bound} {raw : Option Json} {value : Option Nat} :
    bound name raw = .ok value ↔ readBound raw = .ok value := by
  rw [bound]
  cases readBound raw with
  | error fault => exact iff_of_false nofun nofun
  | ok bound => constructor <;> rintro ⟨⟩ <;> rfl

theorem resolve_eq_ok_iff {skip take : Option Json} {window : Option Window} :
    resolve skip take = .ok window ↔
      ∃ s t, Stands skip s ∧ Stands take t ∧ window = ofBounds s t := by
  have read_both : resolve skip take = .ok window ↔ ∃ s t, bound .skip skip = .ok s ∧
      bound .take take = .ok t ∧ window = ofBounds (s.getD 0) (t.getD 0) := by
    unfold resolve
    cases bound .skip skip with
    | error e => simp [bind, Except.bind]
    | ok s => cases bound .take take <;> simp [bind, Except.bind, pure, Except.pure, eq_comm]
  rw [read_both]
  constructor
  · rintro ⟨s, t, hs, ht, rfl⟩
    exact ⟨_, _, ⟨s, bound_eq_ok_iff.mp hs, rfl⟩, ⟨t, bound_eq_ok_iff.mp ht, rfl⟩, rfl⟩
  · rintro ⟨_, _, ⟨s, hs, rfl⟩, ⟨t, ht, rfl⟩, rfl⟩
    exact ⟨s, t, bound_eq_ok_iff.mpr hs, bound_eq_ok_iff.mpr ht, rfl⟩

theorem cap_ofBounds {cap : Option Nat} {skip take : Nat} (positive : 1 ≤ take)
    (roomy : ∀ m, cap = some m → take ≤ m) :
    Window.cap cap (ofBounds skip take) = some ⟨skip, some take⟩ := by
  have bounded : ofBounds skip take = some ⟨skip, some take⟩ := by
    have nonzero : take ≠ 0 := by omega
    rw [ofBounds, if_neg (by omega), if_neg nonzero]
  rw [bounded]
  cases cap with
  | none => rfl
  | some m => rw [Window.cap, Nat.min_eq_left (roomy m rfl)]

end DataGrid.Window
