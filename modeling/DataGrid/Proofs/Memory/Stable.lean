namespace DataGrid

/-- The comparison puts the values of a list in a total preorder. -/
structure PreorderOn (cmp : α → α → Ordering) (xs : List α) : Prop where
  swap : ∀ a ∈ xs, ∀ b ∈ xs, cmp b a = (cmp a b).swap
  trans : ∀ a ∈ xs, ∀ b ∈ xs, ∀ c ∈ xs, (cmp a b).isLE → (cmp b c).isLE → (cmp a c).isLE

/-- Sorted by a comparison, and in the order of the list where it tells nothing apart. -/
structure StableSort (cmp : α → α → Ordering) (xs sorted : List α) : Prop where
  perm : sorted.Perm xs
  ordered : sorted.Pairwise fun a b => (cmp a b).isLE
  stable : ∀ a ∈ xs, sorted.filter (cmp a · == .eq) = xs.filter (cmp a · == .eq)

namespace PreorderOn

variable {cmp cmp' : α → α → Ordering} {xs ys : List α}

theorem mono (h : PreorderOn cmp xs) (subset : ys ⊆ xs) : PreorderOn cmp ys where
  swap a ha b hb := h.swap a (subset ha) b (subset hb)
  trans a ha b hb c hc := h.trans a (subset ha) b (subset hb) c (subset hc)

theorem self (h : PreorderOn cmp xs) {a : α} (ha : a ∈ xs) : cmp a a = .eq := by
  have same := h.swap a ha a ha
  cases hc : cmp a a <;> simp [hc] at same ⊢

theorem eq_of_isLE (h : PreorderOn cmp xs) {a b : α} (ha : a ∈ xs) (hb : b ∈ xs)
    (hab : (cmp a b).isLE) (hba : (cmp b a).isLE) : cmp a b = .eq := by
  rw [h.swap a ha b hb] at hba
  cases hc : cmp a b <;> simp [hc] at hab hba ⊢

theorem symm (h : PreorderOn cmp xs) {a b : α} (ha : a ∈ xs) (hb : b ∈ xs)
    (hab : cmp a b = .eq) : cmp b a = .eq := by
  rw [h.swap a ha b hb, hab]
  rfl

theorem eq_trans (h : PreorderOn cmp xs) {a b c : α} (ha : a ∈ xs) (hb : b ∈ xs) (hc : c ∈ xs)
    (hab : cmp a b = .eq) (hbc : cmp b c = .eq) : cmp a c = .eq := by
  have forth := h.trans a ha b hb c hc (by simp [hab]) (by simp [hbc])
  have back := h.trans c hc b hb a ha (by simp [h.symm hb hc hbc]) (by simp [h.symm ha hb hab])
  exact h.eq_of_isLE ha hc forth back

theorem reversed (h : PreorderOn cmp xs) : PreorderOn (fun a b => (cmp a b).swap) xs where
  swap a ha b hb := congrArg Ordering.swap (h.swap a ha b hb)
  trans a ha b hb c hc hab hbc := by
    rw [← h.swap a ha b hb] at hab
    rw [← h.swap b hb c hc] at hbc
    rw [← h.swap a ha c hc]
    exact h.trans c hc b hb a ha hbc hab

/-- A second comparison for what the first does not tell apart. -/
theorem lex (h : PreorderOn cmp xs) (h' : PreorderOn cmp' xs) :
    PreorderOn (fun a b => (cmp a b).then (cmp' a b)) xs where
  swap a ha b hb := by
    rw [h.swap a ha b hb, h'.swap a ha b hb, Ordering.swap_then]
  trans a ha b hb c hc hab hbc := by
    rw [Ordering.isLE_then_iff_and] at hab hbc ⊢
    obtain ⟨first, ties⟩ := hab
    obtain ⟨last, ties'⟩ := hbc
    have outer : (cmp a c).isLE := h.trans a ha b hb c hc first last
    refine ⟨outer, ?_⟩
    by_cases less : cmp a c = .lt
    · exact .inl less
    -- what is equal in the end is equal at each step
    · have back : (cmp c a).isLE := by
        rw [h.swap a ha c hc]
        cases hac : cmp a c <;> simp_all
      have tie : cmp a b = .eq :=
        h.eq_of_isLE ha hb first (h.trans b hb c hc a ha last back)
      have tie' : cmp b c = .eq :=
        h.eq_of_isLE hb hc last (h.trans c hc a ha b hb back first)
      have hab := ties.resolve_left (by simp [tie])
      have hbc := ties'.resolve_left (by simp [tie'])
      exact .inr (h'.trans a ha b hb c hc hab hbc)

end PreorderOn

section
variable {cmp : α → α → Ordering} {xs sorted sorted' : List α}

theorem eq_of_ties_eq (preorder : PreorderOn cmp sorted) (perm : sorted'.Perm sorted)
    (ordered : sorted.Pairwise fun a b => (cmp a b).isLE)
    (ordered' : sorted'.Pairwise fun a b => (cmp a b).isLE)
    (ties : ∀ a ∈ sorted, sorted'.filter (cmp a · == .eq) = sorted.filter (cmp a · == .eq)) :
    sorted' = sorted := by
  induction sorted generalizing sorted' with
  | nil => exact perm.eq_nil
  | cons a rest ih =>
    cases sorted' with
    | nil => exact absurd perm.symm.eq_nil (List.cons_ne_nil a rest)
    | cons b rest' =>
      have hb : b ∈ a :: rest := perm.subset (List.mem_cons_self ..)
      have ha : a ∈ b :: rest' := perm.symm.subset (List.mem_cons_self ..)
      have self := preorder.self (List.mem_cons_self ..)
      obtain ⟨least, rest_ordered⟩ := List.pairwise_cons.mp ordered
      obtain ⟨least', rest_ordered'⟩ := List.pairwise_cons.mp ordered'
      have forth : (cmp a b).isLE := by
        rcases List.mem_cons.mp hb with rfl | hb
        · simp [self]
        · exact least b hb
      have back : (cmp b a).isLE := by
        rcases List.mem_cons.mp ha with rfl | ha
        · simp [self]
        · exact least' a ha
      -- the first values are equal, and so first among their equals on both sides
      have tie : cmp a b = .eq := preorder.eq_of_isLE (List.mem_cons_self ..) hb forth back
      have firsts := ties a (List.mem_cons_self ..)
      simp only [List.filter_cons, self, tie, beq_self_eq_true, if_true, List.cons.injEq] at firsts
      obtain ⟨rfl, _⟩ := firsts
      rw [ih (preorder.mono (List.subset_cons_self ..)) perm.cons_inv rest_ordered
        rest_ordered']
      intro c hc
      have same := ties c (List.mem_cons_of_mem _ hc)
      rw [List.filter_cons, List.filter_cons] at same
      split at same
      · exact (List.cons.inj same).2
      · exact same

/-- There is only one way to sort stably by a total preorder. -/
theorem StableSort.eq (preorder : PreorderOn cmp xs) (h : StableSort cmp xs sorted)
    (h' : StableSort cmp xs sorted') : sorted' = sorted := by
  refine eq_of_ties_eq (preorder.mono h.perm.subset) (h'.perm.trans h.perm.symm) h.ordered
    h'.ordered fun a ha => ?_
  rw [h.stable a (h.perm.subset ha), h'.stable a (h.perm.subset ha)]

/-- In a list sorted by one comparison a second one holds of what is equal, if it holds within each
part of equal values. -/
theorem pairwise_of_ties {R : α → α → Prop}
    (within : ∀ a ∈ xs, (xs.filter (cmp a · == .eq)).Pairwise R)
    (self : ∀ a ∈ xs, cmp a a = .eq) : xs.Pairwise fun a b => cmp a b = .eq → R a b := by
  induction xs with
  | nil => exact .nil
  | cons a rest ih =>
    refine List.pairwise_cons.mpr ⟨fun b hb tie => ?_, ih (fun c hc => ?_) fun c hc => ?_⟩
    · have ties := within a (List.mem_cons_self ..)
      simp only [List.filter_cons, self a (List.mem_cons_self ..), beq_self_eq_true, if_true] at ties
      exact (List.pairwise_cons.mp ties).1 b (List.mem_filter.mpr ⟨hb, by simp [tie]⟩)
    · exact (within c (List.mem_cons_of_mem _ hc)).sublist
        ((List.sublist_cons_self a rest).filter _)
    · exact self c (List.mem_cons_of_mem _ hc)

end

end DataGrid
