import DataGrid.Proofs.Execution.Bounds
import DataGrid.Proofs.Execution.Prepare
import DataGrid.Proofs.Sql.Arranged

namespace DataGrid.Sql

def limitWord : Piece :=
  .text " LIMIT "

def offsetWord : Piece :=
  .text " OFFSET "

/-- Every OFFSET comes right after the number of a LIMIT. SQLite knows no other: its statements end
with nothing, a LIMIT, or a LIMIT and an OFFSET. -/
def OffsetsFollowLimit (ps : List Piece) : Prop :=
  ∀ before after, ps = before ++ offsetWord :: after →
    ∃ first v, before = first ++ [limitWord, .param v]

def Worded (words : List String) (ps : List Piece) : Prop :=
  ∀ w, Piece.text w ∈ ps → w ∈ words

theorem worded_pageHead (table : String) (q : Query) : Worded headWords (pageHead table q) :=
  fun _ => (arranged_pageHead table q true).text_mem

theorem offsetsFollowLimit_of_notMem {ps : List Piece} (h : offsetWord ∉ ps) :
    OffsetsFollowLimit ps := by
  intro before after split
  apply absurd _ h
  rw [split]
  exact List.mem_append_right before (List.mem_cons_self ..)

theorem offsetsFollowLimit_single_iff {front back : List Piece} (hfront : offsetWord ∉ front)
    (hback : offsetWord ∉ back) :
    OffsetsFollowLimit (front ++ offsetWord :: back) ↔
      ∃ first v, front = first ++ [limitWord, .param v] := by
  constructor
  · intro follow
    exact follow front back rfl
  · intro limited before after split
    have same : front = before :=
      ((List.append_cons_inj_of_notMem hfront hback).mp split).1
    exact same ▸ limited

/-- A page that is bounded, or that no rows are skipped on, has its OFFSET in the right place; a
page that has an OFFSET and no LIMIT has not. -/
theorem offsetsFollowLimit_selectPage_iff (table : String) (q : Query) :
    OffsetsFollowLimit (selectPage table q) ↔ (q.limit = none → q.offset = none) := by
  have no_limit : limitWord ∉ pageHead table q := fun h =>
    absurd (worded_pageHead table q _ h) (by decide)
  have no_offset : offsetWord ∉ pageHead table q := fun h =>
    absurd (worded_pageHead table q _ h) (by decide)
  rw [selectPage_eq_pageHead]
  cases hoffset : q.offset with
  | none =>
    refine iff_of_true (offsetsFollowLimit_of_notMem ?_) (fun _ => rfl)
    intro h
    rcases List.mem_append.mp h with head | bounds
    · exact no_offset head
    · cases hlimit : q.limit <;> rw [hlimit] at bounds <;> simp [boundPart, offsetWord] at bounds
  | some m =>
    have last : offsetWord ∉ [Piece.param (.bound m)] := by simp [offsetWord]
    cases hlimit : q.limit with
    | none =>
      refine iff_of_false ?_ (by simp)
      intro follow
      obtain ⟨first, v, split⟩ := (offsetsFollowLimit_single_iff no_offset last).mp follow
      apply no_limit
      rw [split]
      simp
    | some n =>
      refine iff_of_true ?_ (by simp)
      have limited : boundPart " LIMIT " (some n) ++ boundPart " OFFSET " (some m) =
          [limitWord, .param (.bound n)] ++ offsetWord :: [.param (.bound m)] := rfl
      rw [limited, ← List.append_assoc]
      refine (offsetsFollowLimit_single_iff ?_ last).mpr ⟨_, _, rfl⟩
      intro h
      rcases List.mem_append.mp h with head | bounds
      · exact no_offset head
      · simp [offsetWord, limitWord] at bounds

theorem limit_of_skipped_iff (cap : Option Nat) (skip take : Nat) :
    (((Window.cap cap (Window.ofBounds skip take)).bind Window.take = none →
        (Window.cap cap (Window.ofBounds skip take)).map Window.skip = none) ↔
      (cap = none → take = 0 → skip = 0)) := by
  unfold Window.ofBounds
  by_cases htake : take = 0
  · by_cases hskip : skip = 0 <;> cases cap <;> simp [htake, hskip, Window.cap]
  · cases cap <;> simp [htake, Window.cap]

/-- The page of a query has an OFFSET only right after a LIMIT just when rows are skipped only by
queries that also have a most. For a request this fails in one case: without a cap, with rows to
skip, and with no take or one of zero. -/
theorem offset_follows_limit_unless_only_skipped (table : String) :
    (∀ steps : List Query.Step,
      OffsetsFollowLimit (selectPage table (Query.run steps {})) ↔
        ((Query.run steps {}).limit = none → (Query.run steps {}).offset = none)) ∧
    ∀ (options : Options) (request : Request) (prepared : Prepared),
      prepare options request = .ok prepared →
        ∃ skip take, Window.Stands request.skip skip ∧ Window.Stands request.take take ∧
          (OffsetsFollowLimit (selectPage table prepared.page) ↔
            (options.maxTake = none → take = 0 → skip = 0)) := by
  refine ⟨fun steps => offsetsFollowLimit_selectPage_iff table _, ?_⟩
  intro options request prepared ready
  obtain ⟨window, hresolve, hwindow⟩ := window_of_prepare ready
  obtain ⟨skip, take, hskip, htake, rfl⟩ := Window.resolve_eq_ok_iff.mp hresolve
  obtain ⟨w, _, hpage, _⟩ := queries_of_prepare ready
  refine ⟨skip, take, hskip, htake, ?_⟩
  rw [offsetsFollowLimit_selectPage_iff, hpage, hwindow]
  exact limit_of_skipped_iff options.maxTake skip take

def afterFive : Request where
  filter := none
  sort := none
  skip := some (.ofNat 5)
  take := none
  requireTotalCount := false

theorem offset_of_capped_afterFive :
    ∃ prepared, prepare ⟨some 10⟩ afterFive = .ok prepared ∧
      OffsetsFollowLimit (selectPage "people" prepared.page) := by
  obtain ⟨prepared, ready⟩ : ∃ prepared, prepare ⟨some 10⟩ afterFive = .ok prepared := ⟨_, rfl⟩
  obtain ⟨skip, take, _, _, follow⟩ :=
    (offset_follows_limit_unless_only_skipped "people").2 _ _ _ ready
  exact ⟨prepared, ready, follow.mpr nofun⟩

/-- The OFFSET of this page stands alone, in both forms of its statement. -/
theorem afterFive_offset_without_limit :
    ∃ prepared, prepare {} afterFive = .ok prepared ∧
      (statement .sqlite (selectPage "people" prepared.page)).sql =
        "SELECT * FROM \"people\" OFFSET ?" ∧
      inline .sqlite (selectPage "people" prepared.page) = "SELECT * FROM \"people\" OFFSET 5" ∧
      ¬ OffsetsFollowLimit (selectPage "people" prepared.page) := by
  obtain ⟨prepared, ready, hpage⟩ : ∃ prepared, prepare {} afterFive = .ok prepared ∧
      prepared.page = { offset := some 5 } := ⟨_, rfl, rfl⟩
  refine ⟨prepared, ready, ?_, ?_, ?_⟩
  · rw [hpage]
    decide +kernel
  · rw [hpage]
    decide +kernel
  · rw [hpage, offsetsFollowLimit_selectPage_iff]
    exact fun follow => nomatch follow rfl

end DataGrid.Sql
