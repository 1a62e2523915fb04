import DataGrid.Proofs.Memory.Order
import DataGrid.Proofs.Memory.Stable
import DataGrid.Proofs.Memory.Values
import DataGrid.Proofs.Query.Reachable
import Mathlib.Data.List.Induction

namespace DataGrid

/-- Two rows by the values of a key, whatever its direction. -/
def SortKey.compare (key : SortKey) (a b : Json) : Ordering :=
  Memory.compareValues (a.get? key.field) (b.get? key.field)

namespace Memory

def tied (keys : List SortKey) (a b : Json) : Bool :=
  keys.all fun key => key.compare a b == .eq

theorem compareRows_cons (key : SortKey) (keys : List SortKey) (a b : Json) :
    compareRows (key :: keys) a b =
      (directed key.direction (key.compare a b)).then (compareRows keys a b) :=
  rfl

theorem directed_eq_eq_iff {direction : Direction} {o : Ordering} :
    directed direction o = .eq ↔ o = .eq := by
  cases direction <;> simp [directed]

theorem compareRows_beq_eq (keys : List SortKey) (a b : Json) :
    (compareRows keys a b == .eq) = tied keys a b := by
  rw [Bool.eq_iff_iff, beq_iff_eq]
  induction keys with
  | nil => simp [compareRows, tied]
  | cons key keys ih =>
    rw [compareRows_cons, Ordering.then_eq_eq, directed_eq_eq_iff, ih]
    simp [tied]

theorem preorderOn_directed {cmp : Json → Json → Ordering} {rows : List Json}
    (h : PreorderOn cmp rows) (direction : Direction) :
    PreorderOn (fun a b => directed direction (cmp a b)) rows := by
  cases direction with
  | asc => exact h
  | desc => exact h.reversed

theorem preorderOn_compareRows {keys : List SortKey} {rows : List Json}
    (columns : ∀ key ∈ keys, PreorderOn key.compare rows) : PreorderOn (compareRows keys) rows := by
  induction keys with
  | nil => exact ⟨fun _ _ _ _ => rfl, fun _ _ _ _ _ _ _ _ => rfl⟩
  | cons key keys ih =>
    have first := preorderOn_directed (columns key (List.mem_cons_self ..)) key.direction
    exact first.lex (ih fun k hk => columns k (List.mem_cons_of_mem _ hk))

/-- The first key that tells two rows apart has them in its direction. -/
theorem directed_eq_lt {before after : List SortKey} {key : SortKey} {a b : Json}
    (ordered : (compareRows (before ++ key :: after) a b).isLE)
    (ties : ∀ k ∈ before, k.compare a b = .eq) (apart : key.compare a b ≠ .eq) :
    directed key.direction (key.compare a b) = .lt := by
  induction before with
  | nil =>
    rw [List.nil_append, compareRows_cons, Ordering.isLE_then_iff_or] at ordered
    rcases ordered with less | ⟨tie, _⟩
    · exact less
    · exact absurd (directed_eq_eq_iff.mp tie) apart
  | cons k before ih =>
    have tie : directed k.direction (k.compare a b) = .eq :=
      directed_eq_eq_iff.mpr (ties k (List.mem_cons_self ..))
    rw [List.cons_append, compareRows_cons, tie] at ordered
    exact ih ordered fun k' hk' => ties k' (List.mem_cons_of_mem _ hk')

section
variable {keys : List SortKey}

theorem filter_insertRow {p : Json → Bool} {row : Json} {sorted : List Json}
    (apart : ∀ last ∈ sorted, p row → p last → compareRows keys row last ≠ .lt) :
    (insertRow keys row sorted).filter p = (row :: sorted).filter p := by
  induction sorted with
  | nil => rfl
  | cons last before ih =>
    rw [insertRow]
    split
    · next less =>
      have one : p row = false ∨ p last = false := by
        by_cases hrow : p row
        · exact .inr (by simpa [less, hrow] using apart last (List.mem_cons_self ..))
        · exact .inl (by simpa using hrow)
      rw [List.filter_cons, ih fun l hl => apart l (List.mem_cons_of_mem _ hl)]
      rcases one with out | out <;> simp [List.filter_cons, out]
    · rfl

section
variable {cmp rest : Json → Json → Ordering}
  (parts : ∀ a b, compareRows keys a b = (cmp a b).then (rest a b))
include parts

/-- Rows that are sorted by the keys are sorted by any comparison that the keys start with. -/
theorem pairwise_insertRow {row : Json} {sorted : List Json}
    (preorder : PreorderOn cmp (row :: sorted))
    (ordered : sorted.Pairwise fun late early => (cmp early late).isLE) :
    (insertRow keys row sorted).Pairwise fun late early => (cmp early late).isLE := by
  induction sorted with
  | nil => exact List.pairwise_singleton _ _
  | cons last before ih =>
    have hrow : row ∈ row :: last :: before := List.mem_cons_self ..
    have hlast : last ∈ row :: last :: before := List.mem_cons_of_mem _ (List.mem_cons_self ..)
    obtain ⟨greatest, before_ordered⟩ := List.pairwise_cons.mp ordered
    rw [insertRow]
    split
    · next less =>
      have row_le : (cmp row last).isLE := by
        rw [parts, Ordering.then_eq_lt] at less
        rcases less with less | ⟨tie, _⟩
        · simp [less]
        · simp [tie]
      have rest := ih (preorder.mono (by simp)) before_ordered
      refine List.pairwise_cons.mpr ⟨fun early hearly => ?_, rest⟩
      rcases List.mem_cons.mp ((insertRow_perm keys row before).subset hearly) with rfl | hbefore
      · exact row_le
      · exact greatest early hbefore
    · next not_less =>
      have last_le : (cmp last row).isLE := by
        rw [preorder.swap row hrow last hlast]
        rw [parts, Ordering.then_eq_lt] at not_less
        cases hc : cmp row last <;> simp [hc] at not_less ⊢
      refine List.pairwise_cons.mpr ⟨fun early hearly => ?_, ordered⟩
      rcases List.mem_cons.mp hearly with rfl | hbefore
      · exact last_le
      · exact preorder.trans early (by simp [hbefore]) last hlast row hrow
          (greatest early hbefore) last_le

end

theorem sortRows_concat (keys : List SortKey) (rows : List Json) (row : Json) :
    sortRows keys (rows ++ [row]) = (insertRow keys row (sortRows keys rows).reverse).reverse := by
  unfold sortRows
  rw [List.foldl_append, List.reverse_reverse]
  rfl

/-- Rows that no two of which are told apart stay as they are among themselves. -/
theorem filter_sortRows {p : Json → Bool} {rows : List Json}
    (apart : ∀ a ∈ rows, ∀ b ∈ rows, p a → p b → compareRows keys a b ≠ .lt) :
    (sortRows keys rows).filter p = rows.filter p := by
  induction rows using List.reverseRecOn with
  | nil => rfl
  | append_singleton rows row ih =>
    have last : ∀ b ∈ (sortRows keys rows).reverse, p row → p b → compareRows keys row b ≠ .lt := by
      intro b hb
      have hb : b ∈ rows := (sortRows_perm keys rows).subset (List.mem_reverse.mp hb)
      exact apart row (by simp) b (by simp [hb])
    have before := ih fun a ha b hb => apart a (by simp [ha]) b (by simp [hb])
    rw [sortRows_concat, List.filter_reverse, filter_insertRow last, ← List.filter_reverse,
      List.reverse_cons, List.reverse_reverse, List.filter_append, before, List.filter_append]

theorem pairwise_sortRows_of_parts {cmp rest : Json → Json → Ordering}
    (parts : ∀ a b, compareRows keys a b = (cmp a b).then (rest a b)) {rows : List Json}
    (preorder : PreorderOn cmp rows) :
    (sortRows keys rows).Pairwise fun early late => (cmp early late).isLE := by
  induction rows using List.reverseRecOn with
  | nil => exact .nil
  | append_singleton rows row ih =>
    have sorted := ih (preorder.mono (List.subset_append_left ..))
    rw [sortRows_concat, List.pairwise_reverse]
    refine pairwise_insertRow parts (preorder.mono ?_) (List.pairwise_reverse.mpr sorted)
    intro a ha
    rcases List.mem_cons.mp ha with rfl | before
    · simp
    · have := (sortRows_perm keys rows).subset (List.mem_reverse.mp before)
      simp [this]

theorem pairwise_sortRows {rows : List Json} (preorder : PreorderOn (compareRows keys) rows) :
    (sortRows keys rows).Pairwise fun early late => (compareRows keys early late).isLE :=
  pairwise_sortRows_of_parts (fun _ _ => Ordering.then_eq.symm) preorder

theorem stableSort_sortRows {rows : List Json} (preorder : PreorderOn (compareRows keys) rows) :
    StableSort (compareRows keys) rows (sortRows keys rows) where
  perm := sortRows_perm keys rows
  ordered := pairwise_sortRows preorder
  stable row hrow := by
    refine filter_sortRows fun a ha b hb first last => ?_
    -- what is equal to one row is equal to each other
    have tie := preorder.eq_trans ha hrow hb
      (preorder.symm hrow ha (beq_iff_eq.mp first)) (beq_iff_eq.mp last)
    simp [tie]

end

theorem compareRows_append (before after : List SortKey) (a b : Json) :
    compareRows (before ++ after) a b = (compareRows before a b).then (compareRows after a b) := by
  induction before with
  | nil => rfl
  | cons key before ih =>
    rw [List.cons_append, compareRows_cons, compareRows_cons, ih, Ordering.then_assoc]

theorem compareRows_cons_eq_then (key : SortKey) (keys : List SortKey) (a b : Json) :
    compareRows (key :: keys) a b = (compareRows [key] a b).then (compareRows keys a b) :=
  compareRows_append [key] keys a b

/-- The first key may be sorted by last: what it does not tell apart stays sorted by the others. -/
theorem sortRows_cons {key : SortKey} {keys : List SortKey} {rows : List Json}
    (columns : ∀ k ∈ key :: keys, PreorderOn k.compare rows) :
    sortRows (key :: keys) rows = sortRows [key] (sortRows keys rows) := by
  have whole := preorderOn_compareRows columns
  have others := preorderOn_compareRows fun k hk => columns k (List.mem_cons_of_mem _ hk)
  have perm := sortRows_perm keys rows
  have first : PreorderOn (compareRows [key]) (sortRows keys rows) := by
    refine (preorderOn_compareRows fun k hk => ?_).mono perm.subset
    exact columns k (List.mem_singleton.mp hk ▸ List.mem_cons_self ..)
  have byFirst := stableSort_sortRows first
  have byOthers : (sortRows [key] (sortRows keys rows)).Pairwise fun a b =>
      compareRows [key] a b = .eq → (compareRows keys a b).isLE := by
    refine pairwise_of_ties (fun a ha => ?_) fun a ha => first.self (byFirst.perm.subset ha)
    rw [byFirst.stable a (byFirst.perm.subset ha)]
    exact (pairwise_sortRows others).filter _
  refine (StableSort.eq whole ⟨byFirst.perm.trans perm, ?_, ?_⟩ (stableSort_sortRows whole))
  · refine byFirst.ordered.imp₂ (fun a b le ties => ?_) byOthers
    rw [compareRows_cons_eq_then, Ordering.isLE_then_iff_and]
    refine ⟨le, ?_⟩
    cases hc : compareRows [key] a b with
    | lt => exact .inl rfl
    | eq => exact .inr (ties hc)
    | gt => simp [hc] at le
  · intro row hrow
    have ties {a b : Json} (ha : a ∈ rows) (hb : b ∈ rows)
        (first : compareRows (key :: keys) row a == .eq)
        (last : compareRows (key :: keys) row b == .eq) :
        compareRows [key] a b = .eq ∧ compareRows keys a b = .eq := by
      rw [← Ordering.then_eq_eq, ← compareRows_cons_eq_then]
      exact whole.eq_trans ha hrow hb (whole.symm hrow ha (beq_iff_eq.mp first))
        (beq_iff_eq.mp last)
    rw [filter_sortRows, filter_sortRows]
    · intro a ha b hb first last
      simp [(ties ha hb first last).2]
    · intro a ha b hb first last
      simp [(ties (perm.subset ha) (perm.subset hb) first last).1]

/-- Sorting by several keys is sorting by one after the other, the last key first. -/
theorem sortRows_eq_foldr {keys : List SortKey} {rows : List Json}
    (columns : ∀ key ∈ keys, PreorderOn key.compare rows) :
    sortRows keys rows = keys.foldr (fun key sorted => sortRows [key] sorted) rows := by
  induction keys with
  | nil => exact sortRows_nil rows
  | cons key keys ih =>
    rw [sortRows_cons columns, ih fun k hk => columns k (List.mem_cons_of_mem _ hk),
      List.foldr_cons]

theorem preorderOn_compare_iff {key : SortKey} {rows : List Json} :
    PreorderOn key.compare rows ↔ ∀ a ∈ rows, ∀ b ∈ rows, ∀ c ∈ rows,
      (key.compare a b).isLE → (key.compare b c).isLE →
        ¬ RoundTogether (a.get? key.field) (b.get? key.field) (c.get? key.field) := by
  constructor
  · intro preorder a ha b hb c hc hab hbc
    exact (isLE_compareValues_iff hab hbc).mp (preorder.trans a ha b hb c hc hab hbc)
  · intro apart
    refine ⟨fun a _ b _ => compareValues_swap _ _, fun a ha b hb c hc hab hbc => ?_⟩
    exact (isLE_compareValues_iff hab hbc).mpr (apart a ha b hb c hc hab hbc)

/-- Integers of at most 53 bits are in order with all other values. -/
theorem preorderOn_compare_of_short {key : SortKey} {rows : List Json}
    (short : ∀ row ∈ rows, intSize (row.get? key.field) < Nat.pow 2 53) :
    PreorderOn key.compare rows := by
  refine preorderOn_compare_iff.mpr fun a ha b _ c _ _ _ together => ?_
  have long := (long_of_roundTogether together).1
  have := short a ha
  omega

theorem kindRank_eq_zero_iff {field : String} {row : Json} :
    kindRank (row.get? field) = 0 ↔ present? field row = none := by
  unfold present?
  rcases row.get? field with _ | (_ | _ | _ | _ | _ | _) <;> simp [kindRank]

theorem present?_ne_none_of_lt {key : SortKey} {a b : Json} (h : key.compare a b = .lt) :
    present? key.field b ≠ none := by
  intro absent
  have last := kindRank_eq_zero_iff.mpr absent
  rw [SortKey.compare, compareValues_eq_then, Ordering.then_eq_lt, Nat.compare_eq_lt,
    Nat.compare_eq_eq] at h
  rcases h with less | ⟨same, within⟩
  · omega
  · rw [last] at same
    unfold compareSameKind at within
    split at within
    · next m n hm hn => simp [hm, kindRank] at same
    · next s t hs ht => simp [hs, kindRank] at same
    · next x y hx hy => simp [hx, kindRank] at same
    · cases within

/-- The rows are in the direction of a key. Ascending, a row whose value is missing or null may only
be the first of the two, and descending only the second. -/
def InDirection (key : SortKey) (first second : Json) : Prop :=
  match key.direction with
  | .asc => key.compare first second = .lt ∧ present? key.field second ≠ none
  | .desc => key.compare first second = .gt ∧ present? key.field first ≠ none

theorem inDirection_of_lt {key : SortKey} {first second : Json}
    (h : directed key.direction (key.compare first second) = .lt) :
    InDirection key first second := by
  unfold InDirection
  cases hd : key.direction with
  | asc =>
    rw [hd] at h
    exact ⟨h, present?_ne_none_of_lt h⟩
  | desc =>
    rw [hd, directed, Ordering.swap_eq_lt] at h
    have back : key.compare second first = .lt := by
      rw [SortKey.compare, compareValues_swap, ← SortKey.compare, h]
      rfl
    exact ⟨h, present?_ne_none_of_lt back⟩

theorem page_sortBy (rows : List Json) (clause : Where) (keys : List SortKey) :
    page rows (Query.sortBy { clause := clause } keys) =
      sortRows keys (kept rows { clause := clause }) := by
  rw [Query.sortBy_eq]
  rfl

/-- The rows of a query without a window are those that it keeps. Of any two of them the first key
that tells them apart has them in its direction, and rows that no key tells apart are in the order of
the table, under descending keys too. So the rows are what sorting by one key after the other gives,
the last key first, and what any stable sort gives. Each key must put its values in the rows that are
kept in a total preorder. -/
theorem rows_come_by_first_key_apart {rows : List Json} {clause : Where} {keys : List SortKey}
    (columns : ∀ key ∈ keys, PreorderOn key.compare (kept rows { clause := clause })) :
    (page rows (Query.sortBy { clause := clause } keys)).Perm (kept rows { clause := clause }) ∧
    (page rows (Query.sortBy { clause := clause } keys)).Pairwise (fun first second =>
      ∀ before key after, keys = before ++ key :: after →
        (∀ k ∈ before, k.compare first second = .eq) → key.compare first second ≠ .eq →
          InDirection key first second) ∧
    (∀ row ∈ kept rows { clause := clause },
      (page rows (Query.sortBy { clause := clause } keys)).filter (tied keys row) =
        (kept rows { clause := clause }).filter (tied keys row)) ∧
    page rows (Query.sortBy { clause := clause } keys) =
      keys.foldr (fun key sorted => sortRows [key] sorted) (kept rows { clause := clause }) ∧
    ∀ sorted, StableSort (compareRows keys) (kept rows { clause := clause }) sorted →
      page rows (Query.sortBy { clause := clause } keys) = sorted := by
  have preorder := preorderOn_compareRows columns
  have stable := stableSort_sortRows preorder
  rw [page_sortBy]
  refine ⟨stable.perm, stable.ordered.imp ?_, ?_, sortRows_eq_foldr columns, ?_⟩
  · intro first second ordered before key after parts ties apart
    exact inDirection_of_lt (directed_eq_lt (parts ▸ ordered) ties apart)
  · intro row hrow
    have same := stable.stable row hrow
    simp only [compareRows_beq_eq] at same
    exact same
  · intro sorted other
    exact StableSort.eq preorder other stable

/-- Six records and a text. A team is null, another is missing, and two records differ by their id
only. -/
def teams : List Json :=
  let record (id : Int64) (team : Json) (score : Nat) : Json :=
    Fixture.record id |> Fixture.withField "team" team
      |> Fixture.withField "score" (.ofNat score)
  [record 1 (.str "b") 2, record 2 (.str "a") 2, record 3 (.str "a") 1, record 4 .null 9,
    Fixture.record 5, .str "no record", record 6 (.str "a") 2]

/-- The last key is a field that comes a second time. -/
def byTeamThenScore : List SortKey :=
  [⟨"team", .asc⟩, ⟨"score", .desc⟩, ⟨"team", .desc⟩]

theorem order_of_teams :
    (page teams (Query.sortBy {} byTeamThenScore)).Perm (kept teams {}) ∧
      page teams (Query.sortBy {} byTeamThenScore) =
        sortRows [⟨"team", .asc⟩] (sortRows [⟨"score", .desc⟩]
          (sortRows [⟨"team", .desc⟩] (kept teams {}))) ∧
      Fixture.ids (page teams (Query.sortBy {} byTeamThenScore)) = [4, 5, 2, 6, 3, 1] := by
  have short : ∀ key ∈ byTeamThenScore, ∀ row ∈ kept teams {},
      intSize (row.get? key.field) < Nat.pow 2 53 := by decide +kernel
  have columns : ∀ key ∈ byTeamThenScore, PreorderOn key.compare (kept teams {}) :=
    fun key hkey => preorderOn_compare_of_short (short key hkey)
  obtain ⟨perm, _, _, one_by_one, _⟩ := rows_come_by_first_key_apart columns
  exact ⟨perm, one_by_one, by decide +kernel⟩

end Memory

end DataGrid
