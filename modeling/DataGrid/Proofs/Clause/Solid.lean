import DataGrid.Clause

namespace DataGrid

mutual

def Clause.Solid : Clause → Prop
  | .test _ => True
  | .group entries => entries ≠ [] ∧ Clause.SolidAll entries

def Clause.SolidAll : List (Joiner × Clause) → Prop
  | [] => True
  | (_, clause) :: entries => clause.Solid ∧ Clause.SolidAll entries

end

def Where.Solid (w : Where) : Prop :=
  Clause.SolidAll w

theorem Clause.predicatesOf_append (entries more : List (Joiner × Clause)) :
    Clause.predicatesOf (entries ++ more) =
      Clause.predicatesOf entries ++ Clause.predicatesOf more := by
  induction entries with
  | nil => rfl
  | cons entry entries ih =>
    obtain ⟨joiner, clause⟩ := entry
    rw [List.cons_append, Clause.predicatesOf, Clause.predicatesOf, ih, List.append_assoc]

theorem Where.predicatesOf_pushGroup (joiner : Joiner) (entries : Where) :
    Clause.predicatesOf (Where.pushGroup [] joiner entries) = entries.predicates := by
  cases entries with
  | nil => rfl
  | cons entry entries => exact List.append_nil _

mutual

theorem Clause.Solid.predicates_ne_nil : {c : Clause} → c.Solid → c.predicates ≠ []
  | .test _, _ => List.cons_ne_nil _ _
  | .group _, ⟨entries_ne, solid⟩ => fun h => entries_ne (Clause.SolidAll.eq_nil solid h)

theorem Clause.SolidAll.eq_nil : {entries : List (Joiner × Clause)} →
    Clause.SolidAll entries → Clause.predicatesOf entries = [] → entries = []
  | [], _, _ => rfl
  | (_, _) :: _, ⟨solid, _⟩, h =>
    absurd (List.append_eq_nil_iff.mp h).1 solid.predicates_ne_nil

end

namespace Where

theorem solid_append (w more : Where) : Solid (w ++ more) ↔ w.Solid ∧ more.Solid := by
  induction w with
  | nil => exact (and_iff_right trivial).symm
  | cons entry w ih =>
    obtain ⟨joiner, clause⟩ := entry
    exact (and_congr_right fun _ => ih).trans and_assoc.symm

theorem Solid.push {w : Where} (h : w.Solid) (joiner : Joiner) (predicate : Predicate) :
    (w.push joiner predicate).Solid :=
  (solid_append w _).mpr ⟨h, trivial, trivial⟩

theorem Solid.pushGroup {w entries : Where} (h : w.Solid) (joiner : Joiner)
    (inner : entries.Solid) : (w.pushGroup joiner entries).Solid := by
  unfold Where.pushGroup
  split
  · exact h
  · next entries_ne =>
    have nonempty : entries ≠ [] := by simpa using entries_ne
    exact (solid_append w _).mpr ⟨h, ⟨nonempty, inner⟩, trivial⟩

theorem Solid.predicates_eq_nil_iff {w : Where} (h : w.Solid) : w.predicates = [] ↔ w = [] := by
  constructor
  · exact Clause.SolidAll.eq_nil h
  · intro empty
    rw [empty]
    rfl

end Where

end DataGrid
