import DataGrid.Proofs.Execution.Prepare
import DataGrid.Proofs.Sql.Template
import DataGrid.Sql.Select

namespace DataGrid.Sql

def keyText (key : SortKey) : String :=
  ident key.field ++ Direction.word key.direction

def orderText (keys : List SortKey) : String :=
  if keys = [] then "" else " ORDER BY " ++ ", ".intercalate (keys.map keyText)

/-- The bounds of a window as a page names them, the most rows first. -/
def windowBounds : Option Window → List (String × Nat)
  | none => []
  | some ⟨skip, none⟩ => [(" OFFSET ", skip)]
  | some ⟨skip, some take⟩ => [(" LIMIT ", take), (" OFFSET ", skip)]

def windowParams (window : Option Window) : List Param :=
  (windowBounds window).map fun bound => .bound bound.2

/-- The bounds of a window with placeholders, after `used` others. -/
def windowText (d : Dialect) (used : Nat) (window : Option Window) : String :=
  String.join ((windowBounds window).mapIdx fun i bound =>
    bound.1 ++ d.placeholder (used + i + 1))

def windowInline (window : Option Window) : String :=
  String.join ((windowBounds window).map fun bound => bound.1 ++ toString bound.2)

/-- A WHERE part is nothing or starts with its word. -/
def IsWhere (text : String) : Prop :=
  text = "" ∨ ∃ rest, text = " WHERE " ++ rest

theorem values_orderPieces (keys : List SortKey) : values (orderPieces keys) = [] := by
  induction keys with
  | nil => rfl
  | cons key keys ih =>
    cases keys with
    | nil => rfl
    | cons next keys => exact ih

theorem values_orderPart (keys : List SortKey) : values (orderPart keys) = [] := by
  cases keys with
  | nil => rfl
  | cons key keys => exact values_orderPieces (key :: keys)

theorem inline_orderPieces (d : Dialect) (keys : List SortKey) :
    inline d (orderPieces keys) = ", ".intercalate (keys.map keyText) := by
  induction keys with
  | nil => rfl
  | cons key keys ih =>
    cases keys with
    | nil => simp [orderPieces, inline, Piece.inline, keyText]
    | cons next keys =>
      have more : (next :: keys).map keyText ≠ [] := by simp
      calc inline d (orderPieces (key :: next :: keys))
          = ident key.field ++ (Direction.word key.direction ++
              (", " ++ inline d (orderPieces (next :: keys)))) := by
            simp only [orderPieces, inline_cons, Piece.inline]
        _ = keyText key ++ ", " ++ ", ".intercalate ((next :: keys).map keyText) := by
            rw [ih, keyText, String.append_assoc, String.append_assoc]
        _ = ", ".intercalate ((key :: next :: keys).map keyText) :=
            (String.intercalate_cons_of_ne_nil more).symm

theorem inline_orderPart (d : Dialect) (keys : List SortKey) :
    inline d (orderPart keys) = orderText keys := by
  cases keys with
  | nil => rfl
  | cons key keys =>
    have nonempty : key :: keys ≠ [] := List.cons_ne_nil key keys
    rw [orderText, if_neg nonempty, orderPart, inline_cons, inline_orderPieces, Piece.inline]
    exact nonempty

theorem template_orderPart (d : Dialect) (index : Nat) (keys : List SortKey) :
    template d index (orderPart keys) = orderText keys := by
  rw [template_eq_inline d index (values_orderPart keys), inline_orderPart]

def windowPart (window : Option Window) : List Piece :=
  boundPart " LIMIT " (window.bind Window.take) ++ boundPart " OFFSET " (window.map Window.skip)

theorem values_windowPart (window : Option Window) :
    values (windowPart window) = windowParams window := by
  match window with
  | none => rfl
  | some ⟨skip, none⟩ => rfl
  | some ⟨skip, some take⟩ => rfl

theorem template_windowPart (d : Dialect) (used : Nat) (window : Option Window) :
    template d (used + 1) (windowPart window) = windowText d used window := by
  match window with
  | none => rfl
  | some ⟨skip, none⟩ => rfl
  | some ⟨skip, some take⟩ =>
    simp [template, templateFrom, windowPart, boundPart, windowText, windowBounds,
      String.append_assoc]

theorem inline_windowPart (d : Dialect) (window : Option Window) :
    inline d (windowPart window) = windowInline window := by
  match window with
  | none => rfl
  | some ⟨skip, none⟩ => rfl
  | some ⟨skip, some take⟩ =>
    simp [inline, Piece.inline, Param.literal, windowPart, boundPart, windowInline, windowBounds,
      String.append_assoc]

theorem isWhere_template (d : Dialect) (index : Nat) (w : Where) :
    IsWhere (template d index (wherePart w)) := by
  unfold wherePart
  split
  · exact .inl rfl
  · exact .inr ⟨_, template_text d index _ _⟩

theorem isWhere_inline (d : Dialect) (w : Where) : IsWhere (inline d (wherePart w)) := by
  unfold wherePart
  split
  · exact .inl rfl
  · exact .inr ⟨_, inline_cons d _ _⟩

/-- A page is the WHERE part, the order and the bounds, one after the other. -/
theorem selectPage_window (table : String) (w : Where) (keys : List SortKey)
    (window : Option Window) :
    selectPage table ⟨w, keys, window.map Window.skip, window.bind Window.take⟩ =
      .text "SELECT * FROM " :: .ident table ::
        (wherePart w ++ orderPart keys ++ windowPart window) := by
  rw [selectPage, windowPart, List.append_assoc]

theorem statement_selectPage (d : Dialect) (table : String) (w : Where) (keys : List SortKey)
    (window : Option Window) :
    statement d (selectPage table ⟨w, keys, window.map Window.skip, window.bind Window.take⟩) =
      ⟨"SELECT * FROM " ++ ident table ++ template d 1 (wherePart w) ++ orderText keys ++
          windowText d (values (wherePart w)).length window,
        values (wherePart w) ++ windowParams window⟩ := by
  -- the order has no values, so the bounds are numbered on from the WHERE part
  have params (ps : List Piece) : values (wherePart w ++ orderPart keys ++ ps) =
      values (wherePart w) ++ values ps := by
    rw [values_append, values_append, values_orderPart, List.append_nil]
  have text : template d 1 (wherePart w ++ orderPart keys ++ windowPart window) =
      template d 1 (wherePart w) ++ orderText keys ++
        windowText d (values (wherePart w)).length window := by
    rw [template_append, template_append, template_orderPart, values_append, values_orderPart,
      List.append_nil, Nat.add_comm 1, template_windowPart]
  rw [selectPage_window, statement_eq, values_text, values_ident, params, values_windowPart,
    template_text, template_ident, text]
  simp only [String.append_assoc]

theorem inline_selectPage (d : Dialect) (table : String) (w : Where) (keys : List SortKey)
    (window : Option Window) :
    inline d (selectPage table ⟨w, keys, window.map Window.skip, window.bind Window.take⟩) =
      "SELECT * FROM " ++ ident table ++ inline d (wherePart w) ++ orderText keys ++
        windowInline window := by
  rw [selectPage_window, inline_cons, inline_cons, inline_append, inline_append, inline_orderPart,
    inline_windowPart]
  simp only [Piece.inline, String.append_assoc]

theorem statement_selectCount (d : Dialect) (table : String) (q : Query) :
    statement d (selectCount table q) =
      ⟨"SELECT COUNT(*) FROM " ++ ident table ++ template d 1 (wherePart q.clause),
        values (wherePart q.clause)⟩ := by
  rw [selectCount, statement_eq, values_text, values_ident, template_text, template_ident,
    String.append_assoc]

theorem inline_selectCount (d : Dialect) (table : String) (q : Query) :
    inline d (selectCount table q) =
      "SELECT COUNT(*) FROM " ++ ident table ++ inline d (wherePart q.clause) := by
  rw [selectCount, inline_cons, inline_cons, Piece.inline, Piece.inline, String.append_assoc]

/-- Page and count of a request have the same WHERE part with the same values, with placeholders and
with its values written out. The page goes on with the order of the sort keys and the bounds of the
window under the cap, and these bounds are its only other values. What is counted does not change
with the order, the bounds or the cap. -/
theorem page_and_count_share_where {options : Options} {request : Request} {prepared : Prepared}
    (ready : prepare options request = .ok prepared) (counted : request.requireTotalCount = true)
    (d : Dialect) (table : String) :
    ∃ window count, Window.resolve request.skip request.take = .ok window ∧
      prepared.window = Window.cap options.maxTake window ∧ prepared.count = some count ∧
      (∃ text params, IsWhere text ∧
        statement d (selectCount table count) =
          ⟨"SELECT COUNT(*) FROM " ++ ident table ++ text, params⟩ ∧
        statement d (selectPage table prepared.page) =
          ⟨"SELECT * FROM " ++ ident table ++ text ++ orderText (request.sort.getD []) ++
              windowText d params.length prepared.window,
            params ++ windowParams prepared.window⟩) ∧
      (∃ text, IsWhere text ∧
        inline d (selectCount table count) = "SELECT COUNT(*) FROM " ++ ident table ++ text ∧
        inline d (selectPage table prepared.page) =
          "SELECT * FROM " ++ ident table ++ text ++ orderText (request.sort.getD []) ++
            windowInline prepared.window) ∧
      ∀ (options' : Options) (sort : Option (List SortKey)) (skip take : Option Json)
        (prepared' : Prepared),
        prepare options' { request with sort := sort, skip := skip, take := take } =
            .ok prepared' →
          prepared'.count = some count := by
  obtain ⟨window, hresolve, hwindow⟩ := window_of_prepare ready
  obtain ⟨w, kept, hpage, hcount⟩ := queries_of_prepare ready
  rw [counted, if_pos rfl] at hcount
  refine ⟨window, { clause := w }, hresolve, hwindow, hcount, ?_, ?_, ?_⟩
  · refine ⟨template d 1 (wherePart w), values (wherePart w), isWhere_template d 1 w,
      statement_selectCount d table _, ?_⟩
    rw [hpage, statement_selectPage]
  · refine ⟨inline d (wherePart w), isWhere_inline d w, inline_selectCount d table _, ?_⟩
    rw [hpage, inline_selectPage]
  · intro options' sort skip take prepared' ready'
    obtain ⟨w', kept', _, hcount'⟩ := queries_of_prepare ready'
    -- the filter is the same, and it alone decides the clause
    have same : w' = w := congrArg Query.clause (Except.ok.inj (kept'.symm.trans kept))
    rw [hcount', if_pos counted, same]

/-- People of two ages or with a letter in their name, but for the first of them. -/
def peopleAfterFirst : Request where
  filter := some (.group .or
    [.leaf ⟨"age", "equal", .list [.int 20, .int 35]⟩, .leaf ⟨"name", "contains", .str "a"⟩])
  sort := some [⟨"age", .desc⟩, ⟨"id", .asc⟩]
  skip := some (.ofNat 1)
  take := none
  requireTotalCount := true

theorem statements_of_peopleAfterFirst :
    ∃ prepared count text params, prepare ⟨some 10⟩ peopleAfterFirst = .ok prepared ∧
      prepared.count = some count ∧
      statement .postgres (selectCount "people" count) =
        ⟨"SELECT COUNT(*) FROM " ++ ident "people" ++ text, params⟩ ∧
      statement .postgres (selectPage "people" prepared.page) =
        ⟨"SELECT * FROM " ++ ident "people" ++ text ++ orderText [⟨"age", .desc⟩, ⟨"id", .asc⟩] ++
            windowText .postgres params.length (some ⟨1, some 10⟩),
          params ++ [.bound 10, .bound 1]⟩ := by
  obtain ⟨prepared, ready⟩ : ∃ prepared, prepare ⟨some 10⟩ peopleAfterFirst = .ok prepared :=
    ⟨_, rfl⟩
  obtain ⟨_, count, hresolve, hwindow, hcount, ⟨text, params, _, hcountText, hpageText⟩, _⟩ :=
    page_and_count_share_where ready rfl .postgres "people"
  cases hresolve
  rw [hwindow] at hpageText
  exact ⟨prepared, count, text, params, ready, hcount, hcountText, hpageText⟩

end DataGrid.Sql
