import DataGrid.Clause

namespace DataGrid

section
variable {leaf : Predicate → α} {join : Joiner → α → α → α} {join' : Joiner → β → β → β} {h : α → β}

theorem map_joinNext (hom : ∀ joiner a b, h (join joiner a b) = join' joiner (h a) (h b))
    (joiner : Joiner) (before next : Option α) :
    (joinNext join joiner before next).map h =
      joinNext join' joiner (before.map h) (next.map h) := by
  cases before with
  | none => rfl
  | some a =>
    cases next with
    | none => rfl
    | some b => exact congrArg some (hom joiner a b)

mutual

theorem Clause.map_fold (hom : ∀ joiner a b, h (join joiner a b) = join' joiner (h a) (h b)) :
    (c : Clause) → (c.fold leaf join).map h = c.fold (h ∘ leaf) join'
  | .test _ => rfl
  | .group entries => by
    rw [Clause.fold, Clause.fold]
    exact Clause.map_foldFrom hom none entries

theorem Clause.map_foldFrom (hom : ∀ joiner a b, h (join joiner a b) = join' joiner (h a) (h b))
    (before : Option α) : (entries : List (Joiner × Clause)) →
    (Clause.foldFrom leaf join before entries).map h =
      Clause.foldFrom (h ∘ leaf) join' (before.map h) entries
  | [] => rfl
  | (joiner, clause) :: entries => by
    rw [Clause.foldFrom, Clause.foldFrom, Clause.map_foldFrom hom, map_joinNext hom,
      Clause.map_fold hom clause]

end

theorem Where.map_fold (hom : ∀ joiner a b, h (join joiner a b) = join' joiner (h a) (h b))
    (w : Where) : (w.fold leaf join).map h = w.fold (h ∘ leaf) join' :=
  Clause.map_foldFrom hom none w

theorem Clause.foldFrom_append (before : Option α) (entries more : List (Joiner × Clause)) :
    Clause.foldFrom leaf join before (entries ++ more) =
      Clause.foldFrom leaf join (Clause.foldFrom leaf join before entries) more := by
  induction entries generalizing before with
  | nil => rfl
  | cons entry entries ih => exact ih _

theorem Where.pushGroup_eq_append (w : Where) (joiner : Joiner) (entries : Where) :
    w.pushGroup joiner entries = w ++ Where.pushGroup [] joiner entries := by
  unfold Where.pushGroup
  split
  · exact (List.append_nil w).symm
  · rfl

/-- A group that is left out for having no entries has no value that could be missed. -/
theorem Where.foldFrom_pushGroup (before : Option α) (joiner : Joiner) (entries : Where) :
    Clause.foldFrom leaf join before (Where.pushGroup [] joiner entries) =
      joinNext join joiner before (entries.fold leaf join) := by
  cases entries with
  | nil => cases before <;> rfl
  | cons entry entries => rfl

theorem Where.fold_pushGroup (w : Where) (joiner : Joiner) (entries : Where) :
    (w.pushGroup joiner entries).fold leaf join =
      joinNext join joiner (w.fold leaf join) (entries.fold leaf join) := by
  rw [Where.pushGroup_eq_append, Where.fold, Clause.foldFrom_append, Where.foldFrom_pushGroup]
  rfl

theorem joinNext_eq_none_iff (joiner : Joiner) (before next : Option α) :
    joinNext join joiner before next = none ↔ before = none ∧ next = none := by
  cases before <;> cases next <;> simp [joinNext]

mutual

theorem Clause.fold_eq_none_iff : (c : Clause) → (c.fold leaf join = none ↔ c.predicates = [])
  | .test _ => by simp [Clause.fold, Clause.predicates]
  | .group entries => by
    rw [Clause.fold, Clause.predicates, Clause.foldFrom_eq_none_iff none entries]
    exact and_iff_right rfl

theorem Clause.foldFrom_eq_none_iff (before : Option α) : (entries : List (Joiner × Clause)) →
    (Clause.foldFrom leaf join before entries = none ↔
      before = none ∧ Clause.predicatesOf entries = [])
  | [] => by simp [Clause.foldFrom, Clause.predicatesOf]
  | (joiner, clause) :: entries => by
    rw [Clause.foldFrom, Clause.foldFrom_eq_none_iff _ entries, joinNext_eq_none_iff,
      Clause.fold_eq_none_iff clause, Clause.predicatesOf, List.append_eq_nil_iff, and_assoc]

end

theorem Where.fold_eq_none_iff (w : Where) : w.fold leaf join = none ↔ w.predicates = [] :=
  (Clause.foldFrom_eq_none_iff none w).trans (and_iff_right rfl)

end

theorem getD_joinNext_append (joiner : Joiner) (before next : Option (List α)) :
    (joinNext (fun _ => (· ++ ·)) joiner before next).getD [] = before.getD [] ++ next.getD [] := by
  cases before <;> cases next <;> simp [joinNext]

mutual

theorem Clause.fold_singletons : (c : Clause) →
    (c.fold ([·]) fun _ => (· ++ ·)).getD [] = c.predicates
  | .test _ => rfl
  | .group entries => Clause.foldFrom_singletons none entries

theorem Clause.foldFrom_singletons (before : Option (List Predicate)) :
    (entries : List (Joiner × Clause)) →
    (Clause.foldFrom ([·]) (fun _ => (· ++ ·)) before entries).getD [] =
      before.getD [] ++ Clause.predicatesOf entries
  | [] => (List.append_nil _).symm
  | (joiner, clause) :: entries => by
    rw [Clause.foldFrom, Clause.foldFrom_singletons _ entries, getD_joinNext_append,
      Clause.fold_singletons clause, Clause.predicatesOf, List.append_assoc]

end

theorem Where.fold_singletons (w : Where) :
    (w.fold ([·]) fun _ => (· ++ ·)).getD [] = w.predicates :=
  Clause.foldFrom_singletons none w

end DataGrid
