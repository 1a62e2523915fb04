import DataGrid.Execution
import DataGrid.Proofs.Query.Reachable

namespace DataGrid

/-- The queries that answer a request whose bounds give `window` and whose filter gives `kept`. -/
def Prepared.answering (options : Options) (request : Request) (window : Option Window)
    (kept : Query) : Prepared :=
  let window := Window.cap options.maxTake window
  let sorted := kept.sortBy (request.sort.getD [])
  { page := window.elim sorted sorted.window
    count := if request.requireTotalCount then some kept else none
    window := window }

theorem prepare_eq_ok_iff {options : Options} {request : Request} {prepared : Prepared} :
    prepare options request = .ok prepared ↔ ∃ window kept,
      Window.resolve request.skip request.take = .ok window ∧
      filtered request.filter = .ok kept ∧
      prepared = .answering options request window kept := by
  unfold prepare
  cases Window.resolve request.skip request.take with
  | error e => simp [bind, Except.bind]
  | ok window =>
    cases filtered request.filter with
    | error e => simp [bind, Except.bind]
    | ok kept =>
      cases hcount : request.requireTotalCount <;>
        cases hwindow : Window.cap options.maxTake window <;>
        simp [bind, Except.bind, pure, Except.pure, Functor.map, Except.map,
          Prepared.answering, hcount, hwindow, eq_comm]

theorem window_of_prepare {options : Options} {request : Request} {prepared : Prepared}
    (h : prepare options request = .ok prepared) :
    ∃ window, Window.resolve request.skip request.take = .ok window ∧
      prepared.window = Window.cap options.maxTake window := by
  obtain ⟨window, _, hwindow, _, rfl⟩ := prepare_eq_ok_iff.mp h
  exact ⟨window, hwindow, rfl⟩

theorem eq_clause_of_filtered {filter : Option (Tree Condition)} {kept : Query}
    (h : filtered filter = .ok kept) : kept = { clause := kept.clause } := by
  cases filter with
  | none =>
    cases h
    rfl
  | some tree =>
    obtain ⟨resolved, _, rfl⟩ := Query.filter_eq_ok_iff.mp h
    rfl

/-- Page and count have the clause of the filter. The page takes its order from the sort keys and
its bounds from the window that is told, and the count is there when it is asked for. -/
theorem queries_of_prepare {options : Options} {request : Request} {prepared : Prepared}
    (h : prepare options request = .ok prepared) :
    ∃ w : Where, filtered request.filter = .ok { clause := w } ∧
      prepared.page = ⟨w, request.sort.getD [], prepared.window.map Window.skip,
        prepared.window.bind Window.take⟩ ∧
      prepared.count = if request.requireTotalCount then some { clause := w } else none := by
  obtain ⟨window, kept, _, hkept, rfl⟩ := prepare_eq_ok_iff.mp h
  have alone : kept = { clause := kept.clause } := eq_clause_of_filtered hkept
  refine ⟨kept.clause, alone ▸ hkept, ?_, ?_⟩
  · rw [alone]
    unfold Prepared.answering
    rw [Query.sortBy_eq]
    match Window.cap options.maxTake window with
    | none => rfl
    | some ⟨skip, none⟩ => rfl
    | some ⟨skip, some take⟩ => rfl
  · exact congrArg (if request.requireTotalCount then some · else none) alone

end DataGrid
