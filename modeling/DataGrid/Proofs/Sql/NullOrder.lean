import DataGrid.Fixture
import DataGrid.Proofs.Memory.Sorting
import DataGrid.Proofs.Sql.Arranged
import Mathlib.Data.List.Pairwise
import Mathlib.Data.List.Permutation
import Mathlib.Data.List.TakeWhile

namespace DataGrid.Sql

open Memory

/-- Where an order has NULL among the values. -/
inductive NullPlace where
  | first
  | last
deriving DecidableEq

/-- One of the columns of an ORDER BY, and where it has NULL if that is said. -/
structure OrderTerm where
  column : String
  direction : Direction
  nulls : Option NullPlace
deriving DecidableEq

def orderWords : List (String × Direction × Option NullPlace) :=
  [(" ASC", .asc, none), (" DESC", .desc, none), (" ASC NULLS FIRST", .asc, some .first),
    (" ASC NULLS LAST", .asc, some .last), (" DESC NULLS FIRST", .desc, some .first),
    (" DESC NULLS LAST", .desc, some .last)]

def OrderTerm.read? (column words : String) : Option OrderTerm :=
  (orderWords.lookup words).map fun (direction, nulls) => ⟨column, direction, nulls⟩

/-- The terms that pieces start with, up to what is no comma after a term. -/
def readTerms? : List Piece → Option (List OrderTerm)
  | .ident column :: .text words :: .text ", " :: ps => do
    return (← OrderTerm.read? column words) :: (← readTerms? ps)
  | .ident column :: .text words :: _ => do
    return [← OrderTerm.read? column words]
  | _ => none

def startsOrder : Piece → Bool
  | .text words => words == " ORDER BY "
  | _ => false

/-- What a statement says its rows are ordered by. -/
def orderTerms? (ps : List Piece) : Option (List OrderTerm) :=
  match ps.dropWhile (!startsOrder ·) with
  | [] => some []
  | _ :: ps => readTerms? ps

/-- Where NULL is if an ORDER BY does not say it. SQLite takes NULL for less than all values and
Postgres for more. -/
def Dialect.nullPlace : Dialect → Direction → NullPlace
  | .sqlite, .asc => .first
  | .sqlite, .desc => .last
  | .postgres, .asc => .last
  | .postgres, .desc => .first

def hasValue (field : String) (row : Json) : Bool :=
  (present? field row).isSome

def NullPlace.compare : NullPlace → Bool → Bool → Ordering
  | .first, x, y => Ord.compare x y
  | .last, x, y => Ord.compare y x

/-- Two rows in a database, which orders the values of a column in its own way. -/
def OrderTerm.compare (d : Dialect) (cmp : String → Json → Json → Ordering) (t : OrderTerm)
    (a b : Json) : Ordering :=
  match present? t.column a, present? t.column b with
  | some x, some y => directed t.direction (cmp t.column x y)
  | x, y => (t.nulls.getD (d.nullPlace t.direction)).compare x.isSome y.isSome

def compareTerms (d : Dialect) (cmp : String → Json → Json → Ordering) :
    List OrderTerm → Json → Json → Ordering
  | [], _, _ => .eq
  | t :: ts, a, b => (t.compare d cmp a b).then (compareTerms d cmp ts a b)

/-- The rows as a database may give them for a statement: all of them, and in the order that the
statement says. Rows that it does not tell apart may be in any order. -/
structure OrderedBy (d : Dialect) (cmp : String → Json → Json → Ordering) (ps : List Piece)
    (rows sorted : List Json) : Prop where
  perm : sorted.Perm rows
  ordered : ∃ terms, orderTerms? ps = some terms ∧
    sorted.Pairwise fun a b => (compareTerms d cmp terms a b).isLE

def OrderTerm.ofKey (key : SortKey) : OrderTerm :=
  ⟨key.field, key.direction, none⟩

theorem OrderTerm.read?_word (key : SortKey) :
    read? key.field (Direction.word key.direction) = some (ofKey key) := by
  unfold ofKey
  cases key.direction <;> rfl

theorem readTerms?_orderPieces (key : SortKey) (keys : List SortKey) {ps : List Piece}
    (ends : ps.head? ≠ some (.text ", ")) :
    readTerms? (orderPieces (key :: keys) ++ ps) = some ((key :: keys).map .ofKey) := by
  induction keys generalizing key with
  | nil =>
    have last : readTerms? (.ident key.field :: .text (Direction.word key.direction) :: ps) =
        some [OrderTerm.ofKey key] := by
      rw [readTerms?, OrderTerm.read?_word]
      · rfl
      · rintro ps rfl
        exact ends rfl
    exact last
  | cons next keys ih =>
    show readTerms? (.ident key.field :: .text (Direction.word key.direction) :: .text ", " ::
      (orderPieces (next :: keys) ++ ps)) = _
    rw [readTerms?, OrderTerm.read?_word, ih next]
    rfl

theorem head?_boundParts (limit offset : Option Nat) :
    (boundPart " LIMIT " limit ++ boundPart " OFFSET " offset).head? ≠ some (.text ", ") := by
  cases limit <;> cases offset <;> simp [boundPart]

theorem not_startsOrder_of_arranged {words : List String} {apart : Bool} {ps : List Piece}
    (arranged : Arranged words apart ps) (other : " ORDER BY " ∉ words) :
    ∀ p ∈ ps, (!startsOrder p) = true := by
  intro p member
  cases p with
  | text w =>
    have different : w ≠ " ORDER BY " := fun same => other (same ▸ arranged.text_mem member)
    simp [startsOrder, different]
  | ident name => rfl
  | param v => rfl

theorem orderTerms?_selectPage (table : String) (q : Query) :
    orderTerms? (selectPage table q) = some (q.orders.map .ofKey) := by
  have head : ∀ p ∈ Piece.text "SELECT * FROM " :: .ident table :: wherePart q.clause,
      (!startsOrder p) = true := by
    have arranged : Arranged ("SELECT * FROM " :: " WHERE " :: conditionWords) true
        (.text "SELECT * FROM " :: .ident table :: wherePart q.clause) :=
      ⟨List.mem_cons_self, rfl, (arranged_wherePart q.clause false).mono (List.subset_cons_self ..)⟩
    exact not_startsOrder_of_arranged arranged (by decide)
  have bounds : ∀ p ∈ boundPart " LIMIT " q.limit ++ boundPart " OFFSET " q.offset,
      (!startsOrder p) = true := by
    cases q.limit <;> cases q.offset <;> simp [boundPart, startsOrder]
  have parts : selectPage table q =
      (.text "SELECT * FROM " :: .ident table :: wherePart q.clause) ++
        (orderPart q.orders ++ (boundPart " LIMIT " q.limit ++ boundPart " OFFSET " q.offset)) := by
    simp [selectPage]
  rw [orderTerms?, parts, List.dropWhile_append_of_pos head]
  cases q.orders with
  | nil =>
    rw [orderPart, List.nil_append, List.dropWhile_eq_nil_iff.mpr bounds]
    rfl
  | cons key keys => exact readTerms?_orderPieces key keys (head?_boundParts q.limit q.offset)

theorem compare_eq_lt {key : SortKey} {a b : Json} (ha : hasValue key.field a = false)
    (hb : hasValue key.field b = true) : key.compare a b = .lt := by
  have least : kindRank (a.get? key.field) = 0 :=
    kindRank_eq_zero_iff.mpr (Option.isNone_iff_eq_none.mp (by simpa [hasValue] using ha))
  have more : kindRank (b.get? key.field) ≠ 0 := by
    rw [ne_eq, kindRank_eq_zero_iff]
    exact Option.isSome_iff_ne_none.mp hb
  rw [SortKey.compare, compareValues_eq_then, Ordering.then_eq_lt, Nat.compare_eq_lt]
  exact .inl (by omega)

theorem compare_eq_then (key : SortKey) (a b : Json) :
    key.compare a b =
      (compare (hasValue key.field a) (hasValue key.field b)).then (key.compare a b) := by
  cases ha : hasValue key.field a <;> cases hb : hasValue key.field b
  · rfl
  · rw [compare_eq_lt ha hb]
    rfl
  · have greater : key.compare a b = .gt := by
      rw [SortKey.compare, compareValues_swap, ← SortKey.compare, compare_eq_lt hb ha]
      rfl
    rw [greater]
    rfl
  · rfl

theorem directed_then (direction : Direction) (o o' : Ordering) :
    directed direction (o.then o') = (directed direction o).then (directed direction o') := by
  cases direction with
  | asc => rfl
  | desc => exact Ordering.swap_then o o'

theorem directed_compare_bool (direction : Direction) (x y : Bool) :
    directed direction (compare x y) = (Dialect.sqlite.nullPlace direction).compare x y := by
  cases direction <;> cases x <;> cases y <;> rfl

/-- Rows are ordered by the keys before one, then by whether they have a value of that one, and only
then by the values. -/
theorem compareRows_parts (before : List SortKey) (key : SortKey) (after : List SortKey)
    (a b : Json) :
    compareRows (before ++ key :: after) a b =
      ((compareRows before a b).then
        (directed key.direction (compare (hasValue key.field a) (hasValue key.field b)))).then
      (compareRows (key :: after) a b) := by
  have first : directed key.direction (key.compare a b) =
      (directed key.direction (compare (hasValue key.field a) (hasValue key.field b))).then
        (directed key.direction (key.compare a b)) := by
    rw [← directed_then, ← compare_eq_then]
  have rest : compareRows (key :: after) a b =
      (directed key.direction (compare (hasValue key.field a) (hasValue key.field b))).then
        (compareRows (key :: after) a b) := by
    rw [compareRows_cons, ← Ordering.then_assoc, ← first]
  rw [compareRows_append, Ordering.then_assoc, ← rest]

theorem preorderOn_hasValue (field : String) (rows : List Json) :
    PreorderOn (fun a b => compare (hasValue field a) (hasValue field b)) rows where
  swap _ _ _ _ := Std.OrientedCmp.eq_swap
  trans _ _ _ _ _ _ := Std.TransOrd.isLE_trans

/-- Told of rows in their order whether each has a value, those without one are where they should
be. -/
def NullPlace.Sorts (place : NullPlace) (values : List Bool) : Prop :=
  values.Pairwise fun x y => (place.compare x y).isLE

theorem sorts_sortRows {before : List SortKey} {key : SortKey} (after : List SortKey)
    {rows : List Json} (columns : ∀ k ∈ before, PreorderOn k.compare rows) {group : Json → Bool}
    (ties : ∀ a ∈ rows, ∀ b ∈ rows, group a → group b → tied before a b) :
    (Dialect.sqlite.nullPlace key.direction).Sorts
      (((sortRows (before ++ key :: after) rows).filter group).map (hasValue key.field)) := by
  have preorder := (preorderOn_compareRows columns).lex
    (preorderOn_directed (preorderOn_hasValue key.field rows) key.direction)
  have sorted := pairwise_sortRows_of_parts (compareRows_parts before key after) preorder
  apply List.pairwise_map.mpr
  apply (sorted.filter group).imp_of_mem
  intro a b ha hb le
  obtain ⟨ha, groupA⟩ := List.mem_filter.mp ha
  obtain ⟨hb, groupB⟩ := List.mem_filter.mp hb
  have perm := sortRows_perm (before ++ key :: after) rows
  have tie : compareRows before a b = .eq := by
    rw [← beq_iff_eq, compareRows_beq_eq]
    exact ties a (perm.subset ha) b (perm.subset hb) groupA groupB
  rw [tie] at le
  rw [← directed_compare_bool]
  exact le

section
variable {d : Dialect} {cmp : String → Json → Json → Ordering}

theorem compareTerms_append (before after : List OrderTerm) (a b : Json) :
    compareTerms d cmp (before ++ after) a b =
      (compareTerms d cmp before a b).then (compareTerms d cmp after a b) := by
  induction before with
  | nil => rfl
  | cons t before ih =>
    rw [List.cons_append, compareTerms, compareTerms, ih, Ordering.then_assoc]

theorem isLE_nullPlace_of_ofKey {key : SortKey} {a b : Json}
    (le : ((OrderTerm.ofKey key).compare d cmp a b).isLE) :
    ((d.nullPlace key.direction).compare (hasValue key.field a) (hasValue key.field b)).isLE := by
  unfold OrderTerm.compare OrderTerm.ofKey at le
  unfold hasValue
  split at le
  · next x y hx hy =>
    rw [hx, hy]
    cases d.nullPlace key.direction <;> rfl
  · exact le

/-- Two rows that no key tells apart, neither for a table in memory nor for a database. -/
structure TiedInBoth (d : Dialect) (cmp : String → Json → Json → Ordering) (keys : List SortKey)
    (a b : Json) : Prop where
  memory : tied keys a b
  database : compareTerms d cmp (keys.map .ofKey) a b = .eq

theorem sorts_of_pairwise {before : List SortKey} {key : SortKey} {after : List SortKey}
    {sorted : List Json} {group : Json → Bool}
    (ordered : sorted.Pairwise fun a b =>
      (compareTerms d cmp ((before ++ key :: after).map .ofKey) a b).isLE)
    (ties : ∀ a ∈ sorted, ∀ b ∈ sorted, group a → group b → TiedInBoth d cmp before a b) :
    (d.nullPlace key.direction).Sorts ((sorted.filter group).map (hasValue key.field)) := by
  apply List.pairwise_map.mpr
  apply (ordered.filter group).imp_of_mem
  intro a b ha hb le
  obtain ⟨ha, groupA⟩ := List.mem_filter.mp ha
  obtain ⟨hb, groupB⟩ := List.mem_filter.mp hb
  have tie := (ties a ha b hb groupA groupB).database
  rw [List.map_append, List.map_cons, compareTerms_append, tie, compareTerms] at le
  have decided : (((OrderTerm.ofKey key).compare d cmp a b).then
      (compareTerms d cmp (after.map .ofKey) a b)).isLE := le
  exact isLE_nullPlace_of_ofKey (Ordering.isLE_then_iff_and.mp decided).1

end

section
variable {place : NullPlace} {values values' : List Bool}

theorem NullPlace.eq_of_isLE {x y : Bool} :
    (place.compare x y).isLE → (place.compare y x).isLE → x = y := by
  cases place <;> cases x <;> cases y <;> decide

theorem NullPlace.Sorts.eq (h : place.Sorts values) (h' : place.Sorts values')
    (perm : values'.Perm values) : values' = values :=
  perm.eq_of_pairwise (fun _ _ _ _ => NullPlace.eq_of_isLE) h' h

theorem sorts_reverse_iff (direction : Direction) :
    (Dialect.postgres.nullPlace direction).Sorts values.reverse ↔
      (Dialect.sqlite.nullPlace direction).Sorts values := by
  unfold NullPlace.Sorts
  rw [List.pairwise_reverse]
  cases direction <;> rfl

/-- Only rows that are all alike are where both dialects have them. -/
theorem sorts_postgres_iff (direction : Direction)
    (h : (Dialect.sqlite.nullPlace direction).Sorts values) :
    (Dialect.postgres.nullPlace direction).Sorts values ↔ ∀ x ∈ values, ∀ y ∈ values, x = y := by
  constructor
  · intro h'
    have same : values.Pairwise (· = ·) := by
      apply h.imp₂ _ h'
      intro x y forth back
      apply NullPlace.eq_of_isLE forth
      cases direction <;> exact back
    intro x hx y hy
    exact same.forall_of_forall (fun _ _ => rfl) hx hy
  · intro alike
    apply List.pairwise_of_forall_mem_list
    intro x hx y hy
    rw [alike x hx y hy]
    cases direction <;> cases y <;> rfl

theorem eq_of_sorts {d : Dialect} {direction : Direction}
    (h : (Dialect.sqlite.nullPlace direction).Sorts values)
    (h' : (d.nullPlace direction).Sorts values') (perm : values'.Perm values) :
    values' = if d = .sqlite then values else values.reverse := by
  cases d with
  | sqlite => exact h.eq h' perm
  | postgres =>
    have reversed := (sorts_reverse_iff direction).mpr h
    exact reversed.eq h' (perm.trans (List.reverse_perm values).symm)

theorem eq_iff_of_sorts {d : Dialect} {direction : Direction}
    (h : (Dialect.sqlite.nullPlace direction).Sorts values)
    (h' : (d.nullPlace direction).Sorts values') (perm : values'.Perm values) :
    values' = values ↔ d = .sqlite ∨ ∀ x ∈ values, ∀ y ∈ values, x = y := by
  cases d with
  | sqlite => exact iff_of_true (h.eq h' perm) (.inl rfl)
  | postgres =>
    rw [or_iff_right (by decide), ← sorts_postgres_iff direction h]
    constructor
    · intro same
      exact same ▸ h'
    · intro both
      exact both.eq h' perm

theorem NullPlace.Sorts.pairwise {direction : Direction}
    (h : (Dialect.sqlite.nullPlace direction).Sorts values) :
    (direction = .asc → values.Pairwise (· ≤ ·)) ∧
      (direction = .desc → values.Pairwise (· ≥ ·)) := by
  constructor
  · rintro rfl
    apply List.Pairwise.imp _ h
    decide
  · rintro rfl
    apply List.Pairwise.imp _ h
    decide

end

/-- A page says what its rows are ordered by, and never where NULL is. Take rows that no key before
one tells apart, in memory or in a database. In memory those without a value of that key come first
in ascending order and last in descending order. A database of SQLite has them there too, and one of
Postgres at the other end; so with Postgres the two agree just when none of these rows is missing a
value or all are. The keys before it must put their values in a total preorder. -/
theorem nulls_stand_as_in_memory_but_on_postgres {d : Dialect}
    {cmp : String → Json → Json → Ordering} {table : String} {rows sorted : List Json} {w : Where}
    {before : List SortKey} {key : SortKey} {after : List SortKey}
    (ordered : OrderedBy d cmp
      (selectPage table (Query.sortBy { clause := w } (before ++ key :: after)))
      (kept rows { clause := w }) sorted)
    (columns : ∀ k ∈ before, PreorderOn k.compare (kept rows { clause := w }))
    {group : Json → Bool}
    (ties : ∀ a ∈ kept rows { clause := w }, ∀ b ∈ kept rows { clause := w },
      group a → group b → TiedInBoth d cmp before a b) :
    let inMemory := ((page rows (Query.sortBy { clause := w } (before ++ key :: after))).filter
      group).map (hasValue key.field)
    let inDatabase := (sorted.filter group).map (hasValue key.field)
    orderTerms? (selectPage table (Query.sortBy { clause := w } (before ++ key :: after))) =
      some ((before ++ key :: after).map fun k => ⟨k.field, k.direction, none⟩) ∧
    (key.direction = .asc → inMemory.Pairwise (· ≤ ·)) ∧
    (key.direction = .desc → inMemory.Pairwise (· ≥ ·)) ∧
    inDatabase = (if d = .sqlite then inMemory else inMemory.reverse) ∧
    (inDatabase = inMemory ↔ d = .sqlite ∨ ∀ x ∈ inMemory, ∀ y ∈ inMemory, x = y) := by
  intro inMemory inDatabase
  have said : orderTerms? (selectPage table
      (Query.sortBy { clause := w } (before ++ key :: after))) =
        some ((before ++ key :: after).map .ofKey) := by
    rw [orderTerms?_selectPage, Query.sortBy_eq]
    rfl
  have arranged : page rows (Query.sortBy { clause := w } (before ++ key :: after)) =
      sortRows (before ++ key :: after) (kept rows { clause := w }) := page_sortBy ..
  have memory : (Dialect.sqlite.nullPlace key.direction).Sorts inMemory := by
    show NullPlace.Sorts _ (List.map _ (List.filter group (page _ _)))
    rw [arranged]
    exact sorts_sortRows after columns fun a ha b hb ga gb => (ties a ha b hb ga gb).memory
  have database : (d.nullPlace key.direction).Sorts inDatabase := by
    obtain ⟨terms, read, pairwise⟩ := ordered.ordered
    rw [said] at read
    cases read
    exact sorts_of_pairwise pairwise fun a ha b hb =>
      ties a (ordered.perm.subset ha) b (ordered.perm.subset hb)
  have perm : inDatabase.Perm inMemory := by
    have whole :
        sorted.Perm (page rows (Query.sortBy { clause := w } (before ++ key :: after))) := by
      rw [arranged]
      exact ordered.perm.trans (sortRows_perm _ _).symm
    exact (whole.filter group).map _
  exact ⟨said, memory.pairwise.1, memory.pairwise.2, eq_of_sorts memory database perm,
    eq_iff_of_sorts memory database perm⟩

/-- Of four people in two teams one has a score that is null, and one has none. -/
def scores : List Json :=
  let record (id : Int64) (team : String) : Json :=
    Fixture.record id |> Fixture.withField "team" (.str team)
  [record 1 "a" |> Fixture.withField "score" .null,
    record 2 "a" |> Fixture.withField "score" (.ofNat 5),
    record 3 "b" |> Fixture.withField "score" (.ofNat 1),
    record 4 "a"]

/-- The same people as a database of Postgres may give them by team and score. -/
def scoresOrdered : List Json :=
  scores.drop 3 ++ scores.take 3

theorem scores_stand_reversed_on_postgres :
    let keys : List SortKey := [⟨"team", .asc⟩, ⟨"score", .desc⟩]
    let cmp : String → Json → Json → Ordering := fun _ x y => compareValues (some x) (some y)
    let inTeam := tied [⟨"team", .asc⟩] (Fixture.record 0 |> Fixture.withField "team" (.str "a"))
    let inMemory := ((page scores (Query.sortBy {} keys)).filter inTeam).map (hasValue "score")
    let inDatabase := (scoresOrdered.filter inTeam).map (hasValue "score")
    OrderedBy .postgres cmp (selectPage "people" (Query.sortBy {} keys)) (kept scores {})
      scoresOrdered ∧
    inMemory = [true, false, false] ∧ inDatabase = [false, false, true] := by
  intro keys cmp inTeam inMemory inDatabase
  have ordered : OrderedBy .postgres cmp (selectPage "people" (Query.sortBy {} keys))
      (kept scores {}) scoresOrdered :=
    { perm := List.perm_append_comm
      ordered := ⟨_, orderTerms?_selectPage _ _, by decide +kernel⟩ }
  have short : ∀ row ∈ kept scores {}, intSize (row.get? "team") < Nat.pow 2 53 := by
    decide +kernel
  have columns : ∀ key ∈ [(⟨"team", .asc⟩ : SortKey)], PreorderOn key.compare (kept scores {}) := by
    intro key hkey
    rw [List.mem_singleton.mp hkey]
    exact preorderOn_compare_of_short short
  have ties : ∀ a ∈ kept scores {}, ∀ b ∈ kept scores {}, inTeam a → inTeam b →
      tied [⟨"team", .asc⟩] a b = true ∧
        compareTerms .postgres cmp [⟨"team", .asc, none⟩] a b = .eq := by decide +kernel
  have seen : inMemory = [true, false, false] := by decide +kernel
  have reversed : inDatabase = inMemory.reverse :=
    (nulls_stand_as_in_memory_but_on_postgres ordered columns fun a ha b hb ga gb =>
      ⟨(ties a ha b hb ga gb).1, (ties a ha b hb ga gb).2⟩).2.2.2.1
  refine ⟨ordered, seen, ?_⟩
  rw [reversed, seen]
  rfl

/-- In memory a person without an age comes before one with an age. Postgres has only one order for
the page, whichever way it compares ages, and that is the other one. -/
theorem null_is_first_in_memory_and_last_on_postgres :
    let unknown := Fixture.record 1 |> Fixture.withField "age" .null
    let known := Fixture.record 2 |> Fixture.withField "age" (.ofNat 20)
    let q := Query.sortBy {} [⟨"age", .asc⟩]
    inline .postgres (selectPage "people" q) = "SELECT * FROM \"people\" ORDER BY \"age\" ASC" ∧
    page [unknown, known] q = [unknown, known] ∧
    ∀ cmp sorted, OrderedBy .postgres cmp (selectPage "people" q) [unknown, known] sorted ↔
      sorted = [known, unknown] := by
  intro unknown known q
  refine ⟨by decide +kernel, rfl, fun cmp sorted => ⟨fun ordered => ?_, ?_⟩⟩
  · obtain ⟨terms, read, pairwise⟩ := ordered.ordered
    rw [orderTerms?_selectPage] at read
    cases read
    rcases List.perm_pair.mp ordered.perm with rfl | same
    · have le := List.rel_of_pairwise_cons pairwise (List.mem_singleton_self known)
      cases le
    · exact same
  · rintro rfl
    have le : (compareTerms .postgres cmp [⟨"age", .asc, none⟩] known unknown).isLE := rfl
    exact ⟨List.Perm.swap .., _, orderTerms?_selectPage _ _, List.pairwise_pair.mpr le⟩

end DataGrid.Sql
