import DataGrid.Filter.Tree

namespace DataGrid

theorem Joiner.combine_assoc (joiner : Joiner) (a b c : Bool) :
    joiner.combine (joiner.combine a b) c = joiner.combine a (joiner.combine b c) := by
  cases joiner
  · exact Bool.and_assoc a b c
  · exact Bool.or_assoc a b c

theorem Joiner.combine_mono (joiner : Joiner) {a a' b b' : Bool} (ha : a ≤ a') (hb : b ≤ b') :
    joiner.combine a b ≤ joiner.combine a' b' := by
  revert a a' b b'
  cases joiner <;> decide

namespace Tree

theorem joinOutcome_none_right (joiner : Joiner) (a : Option Bool) :
    joinOutcome joiner a none = a := by
  cases a <;> rfl

theorem joinOutcome_assoc (joiner : Joiner) (a b c : Option Bool) :
    joinOutcome joiner (joinOutcome joiner a b) c =
      joinOutcome joiner a (joinOutcome joiner b c) := by
  match a, b, c with
  | none, _, _ => rfl
  | some _, none, _ => rfl
  | some _, some _, none => rfl
  | some a, some b, some c => exact congrArg some (joiner.combine_assoc a b c)

theorem joinOutcome_eq_none_iff (joiner : Joiner) (a b : Option Bool) :
    joinOutcome joiner a b = none ↔ a = none ∧ b = none := by
  cases a <;> cases b <;> simp [joinOutcome]

mutual

theorem outcome_eq_none_iff (test : α → Bool) : (t : Tree α) →
    (t.outcome test = none ↔ t.leaves = [])
  | .leaf _ => by simp [outcome, leaves]
  | .group joiner children => by
    rw [outcome, leaves]
    exact outcomes_eq_none_iff test joiner children

theorem outcomes_eq_none_iff (test : α → Bool) (joiner : Joiner) : (ts : List (Tree α)) →
    (outcomes test joiner ts = none ↔ leavesAll ts = [])
  | [] => by simp [outcomes, leavesAll]
  | t :: ts => by
    rw [outcomes, leavesAll, joinOutcome_eq_none_iff, outcome_eq_none_iff test t,
      outcomes_eq_none_iff test joiner ts, List.append_eq_nil_iff]

end

mutual

theorem outcome_congr {test test' : α → Bool} : (t : Tree α) →
    (∀ a ∈ t.leaves, test a = test' a) → t.outcome test = t.outcome test'
  | .leaf a, h => congrArg some (h a (List.mem_singleton_self a))
  | .group joiner children, h => by
    rw [outcome, outcome]
    exact outcomes_congr joiner children h

theorem outcomes_congr {test test' : α → Bool} (joiner : Joiner) : (ts : List (Tree α)) →
    (∀ a ∈ leavesAll ts, test a = test' a) →
    outcomes test joiner ts = outcomes test' joiner ts
  | [], _ => rfl
  | t :: ts, h => by
    rw [outcomes, outcomes, outcome_congr t fun a ha => h a (List.mem_append_left _ ha),
      outcomes_congr joiner ts fun a ha => h a (List.mem_append_right _ ha)]

end

theorem joinOutcome_mono (joiner : Joiner) {a a' b b' : Option Bool}
    (ha : Option.Rel (· ≤ ·) a a') (hb : Option.Rel (· ≤ ·) b b') :
    Option.Rel (· ≤ ·) (joinOutcome joiner a b) (joinOutcome joiner a' b') := by
  cases ha with
  | none => exact hb
  | some ha =>
    cases hb with
    | none => exact .some ha
    | some hb => exact .some (joiner.combine_mono ha hb)

mutual

/-- Nothing is negated in a tree: where a test of its leaves holds of more, so does the tree. -/
theorem outcome_mono {test test' : α → Bool} : (t : Tree α) →
    (∀ a ∈ t.leaves, test a ≤ test' a) → Option.Rel (· ≤ ·) (t.outcome test) (t.outcome test')
  | .leaf a, h => .some (h a (List.mem_singleton_self a))
  | .group joiner children, h => outcomes_mono joiner children h

theorem outcomes_mono {test test' : α → Bool} (joiner : Joiner) : (ts : List (Tree α)) →
    (∀ a ∈ leavesAll ts, test a ≤ test' a) →
    Option.Rel (· ≤ ·) (outcomes test joiner ts) (outcomes test' joiner ts)
  | [], _ => .none
  | t :: ts, h =>
    joinOutcome_mono joiner (outcome_mono t fun a ha => h a (List.mem_append_left _ ha))
      (outcomes_mono joiner ts fun a ha => h a (List.mem_append_right _ ha))

end

section
variable {f : α → Except ε β}

theorem mapM_leaf_eq_ok_iff {a : α} {t : Tree β} :
    mapM f (.leaf a) = .ok t ↔ ∃ b, f a = .ok b ∧ t = .leaf b := by
  rw [mapM]
  cases f a <;> simp [Except.map, eq_comm]

theorem mapM_group_eq_ok_iff {joiner : Joiner} {ts : List (Tree α)} {t : Tree β} :
    mapM f (.group joiner ts) = .ok t ↔
      ∃ us, mapChildrenM f ts = .ok us ∧ t = .group joiner us := by
  rw [mapM]
  cases mapChildrenM f ts <;> simp [Except.map, eq_comm]

theorem mapChildrenM_cons_eq_ok_iff {t : Tree α} {ts : List (Tree α)} {us : List (Tree β)} :
    mapChildrenM f (t :: ts) = .ok us ↔
      ∃ v vs, t.mapM f = .ok v ∧ mapChildrenM f ts = .ok vs ∧ us = v :: vs := by
  rw [mapChildrenM]
  cases t.mapM f with
  | error e => simp [bind, Except.bind]
  | ok v => cases mapChildrenM f ts <;> simp [bind, Except.bind, pure, Except.pure, eq_comm]

mutual

theorem exists_mapM_eq_ok : (t : Tree α) → (∀ a ∈ t.leaves, ∃ b, f a = .ok b) →
    ∃ u, t.mapM f = .ok u
  | .leaf a, h => by
    obtain ⟨b, hb⟩ := h a (List.mem_singleton_self a)
    exact ⟨.leaf b, mapM_leaf_eq_ok_iff.mpr ⟨b, hb, rfl⟩⟩
  | .group joiner ts, h => by
    obtain ⟨us, hus⟩ := exists_mapChildrenM_eq_ok ts h
    exact ⟨.group joiner us, mapM_group_eq_ok_iff.mpr ⟨us, hus, rfl⟩⟩

theorem exists_mapChildrenM_eq_ok : (ts : List (Tree α)) →
    (∀ a ∈ leavesAll ts, ∃ b, f a = .ok b) → ∃ us, mapChildrenM f ts = .ok us
  | [], _ => ⟨[], rfl⟩
  | t :: ts, h => by
    obtain ⟨v, hv⟩ := exists_mapM_eq_ok t fun a ha => h a (List.mem_append_left _ ha)
    obtain ⟨vs, hvs⟩ := exists_mapChildrenM_eq_ok ts fun a ha => h a (List.mem_append_right _ ha)
    exact ⟨v :: vs, mapChildrenM_cons_eq_ok_iff.mpr ⟨v, vs, hv, hvs, rfl⟩⟩

end

mutual

theorem map_leaves_of_mapM : (t : Tree α) → {u : Tree β} → t.mapM f = .ok u →
    t.leaves.map f = u.leaves.map .ok
  | .leaf a, _, h => by
    obtain ⟨b, hb, rfl⟩ := mapM_leaf_eq_ok_iff.mp h
    exact congrArg ([·]) hb
  | .group _ ts, _, h => by
    obtain ⟨us, hus, rfl⟩ := mapM_group_eq_ok_iff.mp h
    exact map_leavesAll_of_mapM ts hus

theorem map_leavesAll_of_mapM : (ts : List (Tree α)) → {us : List (Tree β)} →
    mapChildrenM f ts = .ok us → (leavesAll ts).map f = (leavesAll us).map .ok
  | [], _, h => by
    cases h
    rfl
  | t :: ts, _, h => by
    obtain ⟨v, vs, hv, hvs, rfl⟩ := mapChildrenM_cons_eq_ok_iff.mp h
    rw [leavesAll, leavesAll, List.map_append, List.map_append, map_leaves_of_mapM t hv,
      map_leavesAll_of_mapM ts hvs]

end

mutual

theorem outcome_of_mapM (test : β → Bool) : (t : Tree α) → {u : Tree β} → t.mapM f = .ok u →
    u.outcome test = t.outcome fun a => (f a).toOption.any test
  | .leaf a, _, h => by
    obtain ⟨b, hb, rfl⟩ := mapM_leaf_eq_ok_iff.mp h
    rw [outcome, outcome, hb]
    rfl
  | .group joiner ts, _, h => by
    obtain ⟨us, hus, rfl⟩ := mapM_group_eq_ok_iff.mp h
    rw [outcome, outcome]
    exact outcomes_of_mapM test joiner ts hus

theorem outcomes_of_mapM (test : β → Bool) (joiner : Joiner) : (ts : List (Tree α)) →
    {us : List (Tree β)} → mapChildrenM f ts = .ok us →
    outcomes test joiner us = outcomes (fun a => (f a).toOption.any test) joiner ts
  | [], _, h => by
    cases h
    rfl
  | t :: ts, _, h => by
    obtain ⟨v, vs, hv, hvs, rfl⟩ := mapChildrenM_cons_eq_ok_iff.mp h
    rw [outcomes, outcomes, outcome_of_mapM test t hv, outcomes_of_mapM test joiner ts hvs]

end

end

end Tree

end DataGrid
