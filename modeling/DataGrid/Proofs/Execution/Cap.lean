import DataGrid.Proofs.Memory.Page
import DataGrid.Proofs.Sql.Statement

namespace DataGrid

namespace Window

theorem exists_cap_eq (m : Nat) (window : Option Window) :
    ∃ skip take, cap (some m) window = some ⟨skip, some take⟩ ∧ take ≤ m := by
  match window with
  | none => exact ⟨0, m, rfl, Nat.le_refl m⟩
  | some ⟨skip, none⟩ => exact ⟨skip, m, rfl, Nat.le_refl m⟩
  | some ⟨skip, some take⟩ => exact ⟨skip, min take m, rfl, Nat.min_le_right take m⟩

theorem cap_none (window : Option Window) : cap none window = window := by
  cases window <;> rfl

/-- What a capped window shows are the first rows of what the window shows. -/
theorem shown_cap (m : Nat) (window : Option Window) (rows : List α) :
    shown (cap (some m) window) rows = (shown window rows).take m := by
  match window with
  | none => rfl
  | some ⟨skip, none⟩ => rfl
  | some ⟨skip, some take⟩ =>
    calc (rows.drop skip).take (min take m)
        = (rows.drop skip).take (min m take) := by rw [Nat.min_comm]
      _ = ((rows.drop skip).take take).take m := List.take_take.symm

end Window

namespace Memory

theorem execute_eq_ok_iff_window {rows : List Json} {options : Options} {request : Request}
    {envelope : Envelope} :
    execute (m := Id) (Memory.source rows) options request = .ok envelope ↔
      ∃ window kept, Window.resolve request.skip request.take = .ok window ∧
        filtered request.filter = .ok kept ∧
        envelope = answer rows request (Window.cap options.maxTake window) := by
  rw [execute_eq_ok_iff]
  constructor
  · rintro ⟨prepared, ready, rfl⟩
    obtain ⟨window, kept, hwindow, hkept, rfl⟩ := prepare_eq_ok_iff.mp ready
    exact ⟨window, kept, hwindow, hkept, rfl⟩
  · rintro ⟨window, kept, hwindow, hkept, rfl⟩
    exact ⟨_, prepare_eq_ok_iff.mpr ⟨window, kept, hwindow, hkept, rfl⟩, rfl⟩

theorem answer_cap (rows : List Json) (request : Request) (m : Nat) (window : Option Window) :
    answer rows request (Window.cap (some m) window) =
      ⟨(answer rows request window).data.take m, (answer rows request window).totalCount⟩ := by
  unfold answer
  rw [Window.shown_cap]

theorem execute_capped_iff {rows : List Json} {m : Nat} {request : Request} {capped : Envelope} :
    execute (m := Id) (Memory.source rows) ⟨some m⟩ request = .ok capped ↔
      ∃ full, execute (m := Id) (Memory.source rows) {} request = .ok full ∧
        capped = ⟨full.data.take m, full.totalCount⟩ := by
  simp only [execute_eq_ok_iff_window]
  constructor
  · rintro ⟨window, kept, hwindow, hkept, rfl⟩
    exact ⟨_, ⟨window, kept, hwindow, hkept, rfl⟩, by rw [answer_cap, Window.cap_none]⟩
  · rintro ⟨_, ⟨window, kept, hwindow, hkept, rfl⟩, rfl⟩
    exact ⟨window, kept, hwindow, hkept, by rw [answer_cap, Window.cap_none]⟩

end Memory

namespace Sql

theorem windowText_bounded (d : Dialect) (used skip take : Nat) :
    windowText d used (some ⟨skip, some take⟩) =
      " LIMIT " ++ d.placeholder (used + 1) ++ " OFFSET " ++ d.placeholder (used + 2) := by
  simp [windowText, windowBounds, String.append_assoc]

theorem windowInline_bounded (skip take : Nat) :
    windowInline (some ⟨skip, some take⟩) =
      " LIMIT " ++ toString take ++ " OFFSET " ++ toString skip := by
  simp [windowInline, windowBounds, String.append_assoc]

end Sql

/-- Under a cap a request that can be made ready has a window that bounds its page by the cap, and
the statement of the page names that bound, as a value or in its text. A table in memory answers a
request under a cap just when it answers it without one, with the first rows of that answer and the
same count in all. -/
theorem cap_bounds_and_truncates (m : Nat) (request : Request) :
    (∀ prepared, prepare ⟨some m⟩ request = .ok prepared →
      ∃ skip take, prepared.window = some ⟨skip, some take⟩ ∧ take ≤ m ∧
        ∀ (d : Sql.Dialect) (table : String),
          (∃ text params, Sql.IsWhere text ∧
            Sql.statement d (Sql.selectPage table prepared.page) =
              ⟨"SELECT * FROM " ++ Sql.ident table ++ text ++
                  Sql.orderText (request.sort.getD []) ++
                  (" LIMIT " ++ d.placeholder (params.length + 1) ++
                    " OFFSET " ++ d.placeholder (params.length + 2)),
                params ++ [.bound take, .bound skip]⟩) ∧
          ∃ text, Sql.IsWhere text ∧
            Sql.inline d (Sql.selectPage table prepared.page) =
              "SELECT * FROM " ++ Sql.ident table ++ text ++ Sql.orderText (request.sort.getD []) ++
                (" LIMIT " ++ toString take ++ " OFFSET " ++ toString skip)) ∧
    ∀ (rows : List Json) (capped : Envelope),
      execute (m := Id) (Memory.source rows) ⟨some m⟩ request = .ok capped ↔
        ∃ full, execute (m := Id) (Memory.source rows) {} request = .ok full ∧
          capped = ⟨full.data.take m, full.totalCount⟩ := by
  refine ⟨fun prepared ready => ?_, fun rows capped => Memory.execute_capped_iff⟩
  obtain ⟨window, _, hwindow⟩ := window_of_prepare ready
  obtain ⟨skip, take, hcap, le⟩ := Window.exists_cap_eq m window
  have bounded : prepared.window = some ⟨skip, some take⟩ := hwindow.trans hcap
  obtain ⟨w, _, hpage, _⟩ := queries_of_prepare ready
  refine ⟨skip, take, bounded, le, fun d table => ⟨?_, ?_⟩⟩
  · refine ⟨Sql.template d 1 (Sql.wherePart w), Sql.values (Sql.wherePart w),
      Sql.isWhere_template d 1 w, ?_⟩
    rw [hpage, Sql.statement_selectPage, bounded, Sql.windowText_bounded]
    rfl
  · refine ⟨Sql.inline d (Sql.wherePart w), Sql.isWhere_inline d w, ?_⟩
    rw [hpage, Sql.inline_selectPage, bounded, Sql.windowInline_bounded]

def afterFirst : Request :=
  ⟨none, none, some (.ofNat 1), none, true⟩

/-- A request that only skips has no bound of its own. A cap of two leaves it two of its three rows,
and a cap of zero none; the count in all stays. -/
theorem caps_on_skip :
    ∃ full two none : Envelope,
      execute (m := Id) (Memory.source Fixture.people) {} afterFirst = .ok full ∧
      execute (m := Id) (Memory.source Fixture.people) ⟨some 2⟩ afterFirst = .ok two ∧
      execute (m := Id) (Memory.source Fixture.people) ⟨some 0⟩ afterFirst = .ok none ∧
      Fixture.ids full.data = [2, 3, 4] ∧ Fixture.ids two.data = [2, 3] ∧ none.data = [] ∧
      full.totalCount = some 4 ∧ two.totalCount = some 4 ∧ none.totalCount = some 4 := by
  obtain ⟨full, answered, ids, firstIds, count⟩ : ∃ full,
      execute (m := Id) (Memory.source Fixture.people) {} afterFirst = .ok full ∧
      Fixture.ids full.data = [2, 3, 4] ∧ Fixture.ids (full.data.take 2) = [2, 3] ∧
      full.totalCount = some 4 := by
    refine ⟨_, rfl, ?_, ?_, rfl⟩ <;> decide +kernel
  have two := ((cap_bounds_and_truncates 2 afterFirst).2 Fixture.people _).mpr
    ⟨full, answered, rfl⟩
  have none := ((cap_bounds_and_truncates 0 afterFirst).2 Fixture.people _).mpr
    ⟨full, answered, rfl⟩
  exact ⟨full, _, _, answered, two, none, ids, firstIds, rfl, count, count, count⟩

end DataGrid
