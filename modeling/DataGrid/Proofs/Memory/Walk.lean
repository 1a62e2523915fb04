import DataGrid.Proofs.Execution.Bounds
import DataGrid.Proofs.Execution.Cap

namespace DataGrid.Memory

/-- The rows on page `i`, counted from zero, of pages that have `k` rows. -/
def pageAt (k : Nat) (rows : List α) (i : Nat) : List α :=
  (rows.drop (i * k)).take k

theorem length_pageAt (k : Nat) (rows : List α) (i : Nat) :
    (pageAt k rows i).length = min k (rows.length - i * k) := by
  rw [pageAt, List.length_take, List.length_drop]

/-- The first pages hold the first rows: one more page goes on where the pages before it end. -/
theorem flatMap_pageAt (k : Nat) (rows : List α) (n : Nat) :
    (List.range n).flatMap (pageAt k rows) = rows.take (n * k) := by
  induction n with
  | zero => rw [Nat.zero_mul]; rfl
  | succ n ih =>
    rw [List.range_succ, List.flatMap_append, ih, List.flatMap_singleton, pageAt, ← List.take_add,
      Nat.succ_mul]

theorem pageAt_eq_nil_iff {k : Nat} (positive : 1 ≤ k) (rows : List α) (i : Nat) :
    pageAt k rows i = [] ↔ rows.length ≤ i * k := by
  have h := length_pageAt k rows i
  rw [← List.length_eq_zero_iff]
  omega

/-- Only the last page that has rows may have fewer than the others. -/
theorem length_pageAt_of_lt {k : Nat} {rows : List α} {i j : Nat} (before : i < j)
    (some_rows : pageAt k rows j ≠ []) : (pageAt k rows i).length = k := by
  have hj := length_pageAt k rows j
  have positive : 0 < (pageAt k rows j).length := List.length_pos_iff.mpr some_rows
  have next : i * k + k ≤ j * k := by
    calc i * k + k = (i + 1) * k := (Nat.succ_mul i k).symm
      _ ≤ j * k := Nat.mul_le_mul_right k before
  rw [length_pageAt]
  omega

theorem execute_unpaged (rows : List Json) {request : Request} {kept : Query}
    (translates : filtered request.filter = .ok kept) :
    execute (m := Id) (Memory.source rows) {} { request with skip := none, take := none } =
      .ok (answer rows request none) := by
  have unbounded : Window.resolve none none = .ok none := rfl
  exact execute_eq_ok_iff_window.mpr ⟨none, kept, unbounded, translates, rfl⟩

theorem execute_page (rows : List Json) {options : Options} {request : Request} {kept : Query}
    {skip take : Option Json} {s k : Nat} (translates : filtered request.filter = .ok kept)
    (positive : 1 ≤ k) (roomy : ∀ m, options.maxTake = some m → k ≤ m)
    (skips : Window.Stands skip s) (takes : Window.Stands take k) :
    execute (m := Id) (Memory.source rows) options { request with skip := skip, take := take } =
      .ok (answer rows request (some ⟨s, some k⟩)) := by
  have bounded : Window.resolve skip take = .ok (Window.ofBounds s k) :=
    Window.resolve_eq_ok_iff.mpr ⟨s, k, skips, takes, rfl⟩
  refine execute_eq_ok_iff_window.mpr ⟨Window.ofBounds s k, kept, bounded, translates, ?_⟩
  rw [Window.cap_ofBounds positive roomy]
  rfl

/-- A request whose filter translates is asked page by page, `k` rows at a time, with its bounds
written in any way that is read as these numbers, and with no cap or one that is not below the size
of a page. Every page is answered. Without bounds and cap the request has all rows that its filter
keeps, in the order of its sort. One after the other the pages hold these rows, in the same order,
up to where the walk ends, and all of them once the walk is long enough. A page before one that has
rows is full, and a page has no rows just when the pages before it have them all. -/
theorem walk_holds_each_row_once (rows : List Json) {options : Options} {request : Request}
    {kept : Query} {k n : Nat} {take : Option Json} {skip : Nat → Option Json}
    (translates : filtered request.filter = .ok kept) (positive : 1 ≤ k)
    (roomy : ∀ m, options.maxTake = some m → k ≤ m) (takes : Window.Stands take k)
    (skips : ∀ i < n, Window.Stands (skip i) (i * k)) :
    ∃ (full : Envelope) (page : Nat → Envelope),
      execute (m := Id) (Memory.source rows) {} { request with skip := none, take := none } =
        .ok full ∧
      full.data = arranged rows request.filter request.sort ∧
      (∀ i < n, execute (m := Id) (Memory.source rows) options
        { request with skip := skip i, take := take } = .ok (page i)) ∧
      (List.range n).flatMap (fun i => (page i).data) = full.data.take (n * k) ∧
      (full.data.length ≤ n * k → (List.range n).flatMap (fun i => (page i).data) = full.data) ∧
      (∀ i j, i < j → j < n → (page j).data ≠ [] → (page i).data.length = k) ∧
      ∀ i < n, (page i).data = [] ↔ full.data.length ≤ i * k := by
  have concatenated : (List.range n).flatMap
      (pageAt k (arranged rows request.filter request.sort)) =
        (arranged rows request.filter request.sort).take (n * k) := flatMap_pageAt k _ n
  refine ⟨answer rows request none, fun i => answer rows request (some ⟨i * k, some k⟩),
    execute_unpaged rows translates, rfl, ?_, concatenated, ?_, ?_, ?_⟩
  · intro i hi
    exact execute_page rows translates positive roomy (skips i hi) takes
  · intro enough
    exact concatenated.trans (List.take_of_length_le enough)
  · intro i j before _ some_rows
    exact length_pageAt_of_lt before some_rows
  · intro i _
    exact pageAt_eq_nil_iff positive _ i

def oldestFirst : Request where
  filter := none
  sort := some [⟨"age", .desc⟩]
  skip := none
  take := none
  requireTotalCount := true

/-- The size of a page is a text with a fraction to be cut off. -/
def twoOldest (i : Nat) : Request :=
  { oldestFirst with skip := some (.ofNat (i * 2)), take := some (.str " 2.5") }

/-- Four people fill two pages; the third is empty. -/
theorem walk_of_oldestFirst :
    ∃ (full : Envelope) (page : Nat → Envelope),
      execute (m := Id) (Memory.source Fixture.people) {} oldestFirst = .ok full ∧
      (∀ i < 3, execute (m := Id) (Memory.source Fixture.people) ⟨some 2⟩
        (twoOldest i) = .ok (page i)) ∧
      Fixture.ids full.data = [4, 3, 2, 1] ∧
      Fixture.ids (page 0).data = [4, 3] ∧ Fixture.ids (page 1).data = [2, 1] ∧
      Fixture.ids (page 2).data = [] ∧
      (List.range 3).flatMap (fun i => (page i).data) = full.data := by
  have two : Window.Stands (some (.str " 2.5")) 2 := by
    have whole : (Window.readBound (some (.str " 2.5"))).toOption = some (some 2) := by
      decide +kernel
    cases read : Window.readBound (some (.str " 2.5")) with
    | error e =>
      rw [read] at whole
      cases whole
    | ok bound =>
      rw [read] at whole
      cases whole
      exact ⟨some 2, read, rfl⟩
  have at_most_two : ∀ m, (Options.mk (some 2)).maxTake = some m → 2 ≤ m := by
    intro m h
    cases h
    exact Nat.le_refl 2
  have numbers : ∀ i < 3, Window.Stands (some (.ofNat (i * 2))) (i * 2) := by
    intro i hi
    have small : i * 2 ≤ Window.maxBound := by
      rw [Window.maxBound]
      omega
    exact Window.stands_ofNat small
  have translates : filtered oldestFirst.filter = .ok {} := rfl
  obtain ⟨full, page, hfull, rows, hpage, _, whole, _, _⟩ :=
    walk_holds_each_row_once Fixture.people translates (by decide) at_most_two two numbers
  have answers : ∀ i < 3, execute (m := Id) (Memory.source Fixture.people) ⟨some 2⟩
      (twoOldest i) = .ok (page i) := hpage
  have idsOf : ∀ i < 3, some (Fixture.ids (page i).data) =
      (execute (m := Id) (Memory.source Fixture.people) ⟨some 2⟩ (twoOldest i)).toOption.map
        (Fixture.ids ·.data) := by
    intro i hi
    rw [answers i hi]
    rfl
  refine ⟨full, page, hfull, answers, ?_, ?_, ?_, ?_, whole ?_⟩
  · rw [rows]
    decide +kernel
  · exact Option.some.inj ((idsOf 0 (by decide)).trans (by decide +kernel))
  · exact Option.some.inj ((idsOf 1 (by decide)).trans (by decide +kernel))
  · exact Option.some.inj ((idsOf 2 (by decide)).trans (by decide +kernel))
  · rw [rows]
    decide +kernel

end DataGrid.Memory
