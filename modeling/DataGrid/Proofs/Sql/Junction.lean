import DataGrid.Proofs.Clause.Fold
import DataGrid.Sql.Condition

namespace DataGrid.Sql

namespace Condition

theorem ofEntries_append (joiner : Joiner) (before : Condition) (entries more : List Entry) :
    ofEntries joiner before (entries ++ more) =
      ofEntries joiner (ofEntries joiner before entries) more := by
  induction entries generalizing before with
  | nil => rfl
  | cons entry entries ih => exact ih _

theorem ofEntry_entry (j : Junction) : ofEntry j.entry = ofJunction j := by
  obtain ⟨joiner, first, rest⟩ := j
  cases rest <;> rfl

theorem ofJunction_add (j next : Junction) :
    ofJunction (j.add next) = .join j.joiner (ofJunction j) (ofJunction next) := by
  calc ofJunction (j.add next)
      = ofEntries j.joiner (ofJunction j) [next.entry] := ofEntries_append _ _ _ _
    _ = .join j.joiner (ofJunction j) (ofEntry next.entry) := rfl
    _ = .join j.joiner (ofJunction j) (ofJunction next) := by rw [ofEntry_entry]

theorem ofJunction_pair (joiner : Joiner) (before next : Junction) :
    ofJunction ⟨joiner, before.entry, [next.entry]⟩ =
      .join joiner (ofJunction before) (ofJunction next) := by
  rw [← ofEntry_entry before, ← ofEntry_entry next]
  rfl

end Condition

namespace Junction

/-- What is held beside the junction gathered so far is its joiner. -/
def Recorded (gathered : Option (Joiner × Junction)) : Prop :=
  ∀ kind j, gathered = some (kind, j) → j.joiner = kind

def condition? (gathered : Option (Joiner × Junction)) : Option Condition :=
  gathered.map fun g => .ofJunction g.2

theorem recorded_gather (joiner : Joiner) {gathered : Option (Joiner × Junction)}
    (recorded : Recorded gathered) (next : Option Junction) :
    Recorded (gather joiner gathered next) := by
  intro kind j h
  match gathered, next with
  | _, none => exact recorded kind j (by simpa only [gather] using h)
  | none, some next =>
    cases h
    rfl
  | some (before, g), some next =>
    rw [gather] at h
    split at h
    · cases h
      exact recorded _ g rfl
    · cases h
      rfl

/-- One more junction is joined to what was gathered. A run that goes on is joined by the joiner of
its junction, which is the one recorded for it. -/
theorem condition?_gather (joiner : Joiner) {gathered : Option (Joiner × Junction)}
    (recorded : Recorded gathered) (next : Option Junction) :
    condition? (gather joiner gathered next) =
      joinNext .join joiner (condition? gathered) (next.map .ofJunction) := by
  match gathered, next with
  | none, none => rfl
  | some _, none => rfl
  | none, some next => exact congrArg some (Condition.ofEntry_entry next)
  | some (kind, before), some next =>
    rw [gather]
    split
    · next same =>
      -- the junction itself is read with its own joiner, so the recorded one must be that
      refine congrArg some ((Condition.ofJunction_add before next).trans ?_)
      rw [recorded kind before rfl, same]
    · exact congrArg some (Condition.ofJunction_pair joiner before next)

mutual

theorem map_ofClause? : (c : Clause) →
    (ofClause? c).map .ofJunction = c.fold Condition.atom Condition.join
  | .test _ => rfl
  | .group entries => by
    rw [ofClause?, Clause.fold, Option.map_map]
    exact condition?_gatherAll (by intro _ _ h; cases h) entries

theorem condition?_gatherAll {gathered : Option (Joiner × Junction)}
    (recorded : Recorded gathered) : (entries : List (Joiner × Clause)) →
    condition? (gatherAll gathered entries) =
      Clause.foldFrom Condition.atom Condition.join (condition? gathered) entries
  | [] => rfl
  | (joiner, clause) :: entries => by
    rw [gatherAll, Clause.foldFrom, ← map_ofClause? clause,
      ← condition?_gather joiner recorded (ofClause? clause)]
    exact condition?_gatherAll (recorded_gather joiner recorded _) entries

end

end Junction

/-- The condition of a clause is its fold. -/
theorem Condition.ofWhere?_eq_fold (w : Where) :
    ofWhere? w = w.fold Condition.atom Condition.join := by
  unfold ofWhere? Junction.ofWhere?
  rw [Option.map_map]
  exact Junction.condition?_gatherAll (by intro _ _ h; cases h) w

end DataGrid.Sql
