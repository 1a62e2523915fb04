import DataGrid.Proofs.Filter.Parsing
import DataGrid.Proofs.Json.Read
import DataGrid.Proofs.Operand
import DataGrid.Reference
import DataGrid.Request

namespace DataGrid

def IntEquality.condition (e : IntEquality) : Condition :=
  ⟨e.field, "equal", .int e.value⟩

namespace Reference

mutual

/-- The tree of an expression, in which a group's joiner may depend on the number of its nodes. -/
def toFilter (joinerOf : Joiner → Nat → Joiner) : Tree IntEquality → Tree Condition
  | .leaf e => .leaf e.condition
  | .group joiner children =>
    .group (joinerOf joiner children.length) (toFilters joinerOf children)

def toFilters (joinerOf : Joiner → Nat → Joiner) : List (Tree IntEquality) → List (Tree Condition)
  | [] => []
  | t :: ts => toFilter joinerOf t :: toFilters joinerOf ts

end

def objectJoiner (joiner : Joiner) (_ : Nat) : Joiner :=
  joiner

/-- An array has no separator to tell its joiner by when it has fewer than two nodes. -/
def arrayJoiner (joiner : Joiner) (length : Nat) : Joiner :=
  if length < 2 then .and else joiner

def SeveralKept (joinerOf : Joiner → Nat → Joiner) : Prop :=
  ∀ joiner length, 2 ≤ length → joinerOf joiner length = joiner

theorem objectJoiner_severalKept : SeveralKept objectJoiner :=
  fun _ _ _ => rfl

theorem arrayJoiner_severalKept : SeveralKept arrayJoiner := by
  intro joiner length several
  rw [arrayJoiner, if_neg (by omega)]

def Named (e : Reference) : Prop :=
  ∀ a ∈ e.leaves, a.field ≠ ""

def AllNamed (ts : List (Tree IntEquality)) : Prop :=
  ∀ a ∈ Tree.leavesAll ts, a.field ≠ ""

theorem AllNamed.head {t : Tree IntEquality} {ts : List (Tree IntEquality)}
    (h : AllNamed (t :: ts)) : Named t :=
  fun a ha => h a (List.mem_append_left _ ha)

theorem AllNamed.tail {t : Tree IntEquality} {ts : List (Tree IntEquality)}
    (h : AllNamed (t :: ts)) : AllNamed ts :=
  fun a ha => h a (List.mem_append_right _ ha)

theorem toObject_leaf (e : IntEquality) : toObject (.leaf e) =
    .obj [("field", .str e.field), ("operator", .str "equal"), ("value", .ofInt64 e.value)] := by
  rw [toObject]
  rfl

/-- The nodes of a group come before its joiner, since fields are in the order of their names. -/
theorem toObject_group (joiner : Joiner) (children : List (Tree IntEquality)) :
    toObject (.group joiner children) =
      .obj [("filters", .arr (toObjects children)), ("operator", .str joiner.symbol)] := by
  rw [toObject]
  rfl

theorem parseAt_group_object (path : Filter.Path) (joiner : Joiner) (items : List Json) :
    Filter.parseAt path (.obj [("filters", .arr items), ("operator", .str joiner.symbol)]) =
      (Filter.parseChildren "filters" path 0 items).map (.group joiner) := by
  have hjoiner : Filter.groupJoiner path (some (.str joiner.symbol)) = .ok joiner := by
    rw [Filter.groupJoiner, Joiner.ofSymbol?_symbol]
  have hoperator : (Json.obj [("filters", .arr items), ("operator", .str joiner.symbol)]).get?
      "operator" = some (.str joiner.symbol) := rfl
  rw [Filter.parseAt, Filter.childrenUnder, if_pos rfl, Filter.parseChildrenOf]
  dsimp only
  rw [hoperator, hjoiner]
  cases Filter.parseChildren "filters" path 0 items <;> rfl

theorem comparison_condition (path : Filter.Path) {e : IntEquality} (named : e.field ≠ "") :
    Filter.comparison path (some (.str e.field)) (some (.str "equal")) (.ofInt64 e.value) =
      .ok (.leaf e.condition) := by
  rw [Filter.comparison, if_neg named, Operand.ofJson?_ofInt64]
  rfl

mutual

theorem parseAt_toObject (path : Filter.Path) : (e : Reference) → Named e →
    Filter.parseAt path (toObject e) = .ok (toFilter objectJoiner e)
  | .leaf e, named => by
    rw [toObject_leaf, Filter.parseAt]
    exact comparison_condition path (named e (List.mem_singleton_self e))
  | .group joiner children, named => by
    have hchildren := parseChildren_toObjects "filters" path 0 children named
    rw [toObject_group, parseAt_group_object, hchildren]
    rfl

theorem parseChildren_toObjects (key : String) (path : Filter.Path) (index : Nat) :
    (ts : List (Tree IntEquality)) → AllNamed ts →
    Filter.parseChildren key path index (toObjects ts) = .ok (toFilters objectJoiner ts)
  | [], _ => rfl
  | t :: ts, named => by
    rw [toObjects, Filter.parseChildren, parseAt_toObject _ t named.head,
      parseChildren_toObjects key path (index + 1) ts named.tail]
    rfl

end

theorem toArray_ne_str (t : Tree IntEquality) (s : String) : toArray t ≠ .str s := by
  cases t with
  | leaf e => rw [toArray]; exact nofun
  | group joiner children => rw [toArray]; exact nofun

theorem ofRuns_runsOf (joiner : Joiner) (node : Tree Condition) (nodes : List (Tree Condition)) :
    Filter.ofRuns (Filter.runsOf joiner (node :: nodes)) =
      .group (arrayJoiner joiner (node :: nodes).length) (node :: nodes) := by
  cases nodes with
  | nil => cases joiner <;> rfl
  | cons next nodes =>
    have several : 2 ≤ (node :: next :: nodes).length := by simp
    rw [arrayJoiner_severalKept joiner _ several]
    exact Filter.ofRuns_runsOf joiner several

theorem toArrays_cons (joiner : Joiner) (t : Tree IntEquality) (ts : List (Tree IntEquality)) :
    ∃ items, toArrays joiner (t :: ts) = toArray t :: items := by
  cases ts with
  | nil => exact ⟨[], rfl⟩
  | cons u us => exact ⟨.str joiner.symbol :: toArrays joiner (u :: us), rfl⟩

theorem parseAt_toArrays (path : Filter.Path) (joiner : Joiner) (t : Tree IntEquality)
    (ts : List (Tree IntEquality)) :
    Filter.parseAt path (.arr (toArrays joiner (t :: ts))) =
      (Filter.parseRuns path 0 false (toArrays joiner (t :: ts))).map Filter.ofRuns := by
  obtain ⟨items, h⟩ := toArrays_cons joiner t ts
  rw [h, Filter.parseAt]
  · exact nofun
  · intro s rest heq
    exact toArray_ne_str t s (List.cons.inj heq).1

/-- One node of an array is read before the separator that may follow it. -/
theorem parseRuns_toArray (path : Filter.Path) (index : Nat) {t : Tree IntEquality}
    {node : Tree Condition} (items : List Json)
    (h : Filter.parseAt (path ++ [.item index]) (toArray t) = .ok node) :
    Filter.parseRuns path index false (toArray t :: items) =
      (Filter.parseRuns path (index + 1) true items).map (Filter.addToRun node) := by
  rw [Filter.parseRuns, h]
  · cases Filter.parseRuns path (index + 1) true items <;> rfl
  · exact toArray_ne_str t

theorem parseRuns_separator (path : Filter.Path) (index : Nat) (joiner : Joiner)
    (items : List Json) :
    Filter.parseRuns path index true (.str joiner.symbol :: items) =
      (Filter.parseRuns path (index + 1) false items).map fun runs =>
        match joiner with
        | .and => runs
        | .or => [] :: runs := by
  rw [Filter.parseRuns, Filter.separator, Joiner.ofSymbol?_symbol]
  cases Filter.parseRuns path (index + 1) false items <;> rfl

theorem length_toFilters (joinerOf : Joiner → Nat → Joiner) (ts : List (Tree IntEquality)) :
    (toFilters joinerOf ts).length = ts.length := by
  induction ts with
  | nil => rfl
  | cons t ts ih => rw [toFilters, List.length_cons, ih, List.length_cons]

mutual

theorem parseAt_toArray (path : Filter.Path) : (e : Reference) → Named e →
    Filter.parseAt path (toArray e) = .ok (toFilter arrayJoiner e)
  | .leaf e, named => by
    rw [toArray, Filter.parseAt, Filter.arrayComparison]
    exact comparison_condition path (named e (List.mem_singleton_self e))
  | .group joiner [], _ => rfl
  | .group joiner (t :: ts), named => by
    -- the runs of the array are put together as the group that it was written from
    rw [toArray, parseAt_toArrays,
      parseRuns_toArrays path joiner 0 (t :: ts) (List.cons_ne_nil t ts) named, toFilter,
      ← length_toFilters arrayJoiner, toFilters, ← ofRuns_runsOf]
    rfl

theorem parseRuns_toArrays (path : Filter.Path) (joiner : Joiner) (index : Nat) :
    (ts : List (Tree IntEquality)) → ts ≠ [] → AllNamed ts →
    Filter.parseRuns path index false (toArrays joiner ts) =
      .ok (Filter.runsOf joiner (toFilters arrayJoiner ts))
  | [], nonempty, _ => absurd rfl nonempty
  | [t], _, named => by
    rw [toArrays, parseRuns_toArray path index [] (parseAt_toArray _ t named.head)]
    cases joiner <;> rfl
  | t :: u :: us, _, named => by
    have rest := parseRuns_toArrays path joiner (index + 2) (u :: us) (List.cons_ne_nil u us)
      named.tail
    rw [toArrays, parseRuns_toArray path index _ (parseAt_toArray _ t named.head),
      parseRuns_separator, rest]
    · cases joiner <;> rfl
    · exact nofun

end

end Reference

end DataGrid
