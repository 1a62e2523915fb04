import DataGrid.Fixture
import DataGrid.Proofs.Execution.Prepare
import DataGrid.Proofs.Filter.Meaning
import DataGrid.Proofs.Memory.Order

namespace DataGrid

/-- Whether the filter of a request keeps a row. Without comparisons in it every row is kept. -/
def Filter.keeps (filter : Option (Tree Condition)) (row : Json) : Bool :=
  (filter.bind (Filter.outcome (Memory.evaluate · row))).getD true

def Window.shown (window : Option Window) (rows : List α) : List α :=
  match window with
  | none => rows
  | some ⟨skip, none⟩ => rows.drop skip
  | some ⟨skip, some take⟩ => (rows.drop skip).take take

theorem Window.shown_sublist (window : Option Window) (rows : List α) :
    (Window.shown window rows).Sublist rows := by
  match window with
  | none => exact List.Sublist.refl rows
  | some ⟨skip, none⟩ => exact List.drop_sublist skip rows
  | some ⟨skip, some take⟩ =>
    exact (List.take_sublist take _).trans (List.drop_sublist skip rows)

theorem holds_of_filtered {filter : Option (Tree Condition)} {kept : Query}
    (h : filtered filter = .ok kept) (test : Predicate → Bool) :
    kept.clause.holds test = (filter.bind (Filter.outcome test)).getD true := by
  cases filter with
  | none =>
    cases h
    rfl
  | some tree => exact Query.holds_of_filter h test

namespace Memory

/-- The rows of a table that the filter of a request keeps, in the order of the table. -/
def filteredRows (rows : List Json) (filter : Option (Tree Condition)) : List Json :=
  rows.filter (Filter.keeps filter)

/-- The rows that the filter keeps, in the order that the request sorts them in. -/
def arranged (rows : List Json) (filter : Option (Tree Condition))
    (sort : Option (List SortKey)) : List Json :=
  sortRows (sort.getD []) (filteredRows rows filter)

theorem kept_of_filtered (rows : List Json) {filter : Option (Tree Condition)} {q : Query}
    (h : filtered filter = .ok q) : kept rows q = filteredRows rows filter := by
  unfold kept filteredRows Filter.keeps
  simp only [holds_of_filtered h]

theorem page_answering (rows : List Json) (options : Options) (request : Request)
    (window : Option Window) {q : Query} (h : filtered request.filter = .ok q) :
    page rows (Prepared.answering options request window q).page =
      Window.shown (Window.cap options.maxTake window)
        (arranged rows request.filter request.sort) := by
  have hq : q = { clause := q.clause } := eq_clause_of_filtered h
  rw [arranged, ← kept_of_filtered rows h, hq]
  unfold Prepared.answering page
  rw [Query.sortBy_eq]
  match Window.cap options.maxTake window with
  | none => rfl
  | some ⟨skip, none⟩ => rfl
  | some ⟨skip, some take⟩ => rfl

/-- The answer of a table to a request that is shown through a window. -/
def answer (rows : List Json) (request : Request) (window : Option Window) : Envelope where
  data := Window.shown window (arranged rows request.filter request.sort)
  totalCount :=
    if request.requireTotalCount then some (filteredRows rows request.filter).length else none

theorem answer_answering (rows : List Json) (options : Options) (request : Request)
    (window : Option Window) {q : Query} (h : filtered request.filter = .ok q) :
    ⟨page rows (Prepared.answering options request window q).page,
        (Prepared.answering options request window q).count.map (count rows)⟩ =
      answer rows request (Window.cap options.maxTake window) := by
  rw [page_answering rows options request window h]
  unfold answer Prepared.answering
  cases request.requireTotalCount with
  | false => rfl
  | true =>
    dsimp only
    rw [if_pos rfl, if_pos rfl, Option.map_some, count, kept_of_filtered rows h]

/-- A table in memory never fails: it answers every request that can be made ready. -/
theorem execute_eq (rows : List Json) (options : Options) (request : Request) :
    execute (m := Id) (Memory.source rows) options request =
      (prepare options request).map fun prepared =>
        ⟨page rows prepared.page, prepared.count.map (count rows)⟩ := by
  unfold execute
  cases prepare options request with
  | error e => rfl
  | ok prepared =>
    obtain ⟨pageQuery, countQuery, window⟩ := prepared
    cases countQuery <;> rfl

theorem execute_eq_ok_iff {rows : List Json} {options : Options} {request : Request}
    {envelope : Envelope} :
    execute (m := Id) (Memory.source rows) options request = .ok envelope ↔
      ∃ prepared, prepare options request = .ok prepared ∧
        envelope = answer rows request prepared.window := by
  rw [execute_eq]
  constructor
  · intro h
    cases hp : prepare options request with
    | error e =>
      rw [hp] at h
      cases h
    | ok prepared =>
      rw [hp] at h
      obtain ⟨window, q, _, hq, rfl⟩ := prepare_eq_ok_iff.mp hp
      exact ⟨_, rfl, (Except.ok.inj h).symm.trans (answer_answering rows options request window hq)⟩
  · rintro ⟨prepared, hp, rfl⟩
    obtain ⟨window, q, _, hq, rfl⟩ := prepare_eq_ok_iff.mp hp
    rw [hp]
    exact congrArg Except.ok (answer_answering rows options request window hq)

theorem execute_counted (rows : List Json) {tree : Tree Condition} {resolved : Tree Predicate}
    (h : tree.mapM Filter.resolve = .ok resolved) :
    execute (m := Id) (Memory.source rows) {} ⟨some tree, none, none, none, true⟩ =
      .ok ⟨filteredRows rows (some tree), some (filteredRows rows (some tree)).length⟩ := by
  have hkept : filtered (some tree) = .ok _ := Query.filter_eq_ok_iff.mpr ⟨resolved, h, rfl⟩
  have hprepared : prepare {} ⟨some tree, none, none, none, true⟩ = .ok _ :=
    prepare_eq_ok_iff.mpr ⟨none, _, rfl, hkept, rfl⟩
  refine execute_eq_ok_iff.mpr ⟨_, hprepared, ?_⟩
  change _ = answer rows ⟨some tree, none, none, none, true⟩ none
  rw [answer, Window.shown, arranged, Option.getD_none, sortRows_nil]
  rfl

theorem arranged_perm (rows : List Json) (filter : Option (Tree Condition))
    (sort : Option (List SortKey)) :
    (arranged rows filter sort).Perm (filteredRows rows filter) :=
  sortRows_perm _ _

theorem length_shown_arranged_le (rows : List Json) (filter : Option (Tree Condition))
    (sort : Option (List SortKey)) (window : Option Window) :
    (Window.shown window (arranged rows filter sort)).length ≤ (filteredRows rows filter).length := by
  rw [← (arranged_perm rows filter sort).length_eq]
  exact (Window.shown_sublist window _).length_le

/-- The page of an answer is the window of the request, under the cap, on the rows that the filter
keeps as the order arranges them; without sort keys that is the order of the table. The count in all
is there when it is asked for, and is the number of rows that the filter keeps: it is the same
whatever the order, the bounds and the cap, and no page has more rows. -/
theorem page_is_window_of_arranged {rows : List Json} {options : Options} {request : Request}
    {envelope : Envelope}
    (answered : execute (m := Id) (Memory.source rows) options request = .ok envelope) :
    (∃ prepared, prepare options request = .ok prepared ∧
      envelope.data =
        Window.shown prepared.window (arranged rows request.filter request.sort)) ∧
    (arranged rows request.filter request.sort).Perm (filteredRows rows request.filter) ∧
    (request.sort.getD [] = [] →
      arranged rows request.filter request.sort = filteredRows rows request.filter) ∧
    envelope.totalCount =
      (if request.requireTotalCount then some (filteredRows rows request.filter).length
        else none) ∧
    envelope.data.length ≤ (filteredRows rows request.filter).length ∧
    ∀ (options' : Options) (sort : Option (List SortKey)) (skip take : Option Json)
      (envelope' : Envelope),
      execute (m := Id) (Memory.source rows) options'
          { request with sort := sort, skip := skip, take := take } = .ok envelope' →
        envelope'.totalCount = envelope.totalCount := by
  obtain ⟨prepared, hp, rfl⟩ := execute_eq_ok_iff.mp answered
  refine ⟨⟨prepared, hp, rfl⟩, arranged_perm _ _ _, ?_, rfl, ?_, ?_⟩
  · intro no_keys
    rw [arranged, no_keys, sortRows_nil]
  · exact length_shown_arranged_le _ _ _ _
  · intro options' sort skip take envelope' answered'
    obtain ⟨prepared', _, rfl⟩ := execute_eq_ok_iff.mp answered'
    rfl

/-- The people over 30, oldest first, after the oldest. -/
def peopleOver30 : Request where
  filter := some (.leaf ⟨"age", "greaterThan", .int 30⟩)
  sort := some [⟨"age", .desc⟩]
  skip := some (.ofNat 1)
  take := none
  requireTotalCount := true

theorem page_of_peopleOver30 :
    ∃ envelope,
      execute (m := Id) (Memory.source Fixture.people) ⟨some 1⟩ peopleOver30 = .ok envelope ∧
      envelope.totalCount = some 3 ∧ envelope.data.length ≤ 3 := by
  have three : (filteredRows Fixture.people peopleOver30.filter).length = 3 := by decide +kernel
  obtain ⟨envelope, answered⟩ : ∃ envelope,
      execute (m := Id) (Memory.source Fixture.people) ⟨some 1⟩ peopleOver30 = .ok envelope :=
    ⟨_, rfl⟩
  obtain ⟨_, _, _, hcount, hlength, _⟩ := page_is_window_of_arranged answered
  rw [three] at hcount hlength
  exact ⟨envelope, answered, hcount, hlength⟩

end Memory

end DataGrid
