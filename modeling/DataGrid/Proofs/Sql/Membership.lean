import DataGrid.Memory.Table
import DataGrid.Proofs.Filter.Acceptance
import DataGrid.Proofs.Sql.Carried
import DataGrid.Proofs.Sql.Where
import Mathlib.Data.List.Forall2

namespace DataGrid

def Joiner.over (joiner : Joiner) (test : α → Bool) (items : List α) : Bool :=
  match joiner with
  | .and => items.all test
  | .or => items.any test

theorem Joiner.over_cons (joiner : Joiner) (test : α → Bool) (item : α) (items : List α) :
    joiner.over test (item :: items) = joiner.combine (test item) (joiner.over test items) := by
  cases joiner <;> rfl

theorem Joiner.over_congr (joiner : Joiner) {test test' : α → Bool} {items : List α}
    (same : ∀ item ∈ items, test item = test' item) :
    joiner.over test items = joiner.over test' items := by
  induction items with
  | nil => cases joiner <;> rfl
  | cons item items ih =>
    rw [over_cons, over_cons, same item List.mem_cons_self,
      ih fun item member => same item (List.mem_cons_of_mem _ member)]

/-- What fails for every item fails for a list that has one, by either joiner. -/
theorem Joiner.over_eq_false (joiner : Joiner) {test : α → Bool} {items : List α}
    (nonempty : items ≠ []) (fails : ∀ item ∈ items, test item = false) :
    joiner.over test items = false := by
  obtain ⟨item, member⟩ := List.exists_mem_of_ne_nil items nonempty
  cases joiner with
  | and => exact List.all_eq_false.mpr ⟨item, member, by simp [fails item member]⟩
  | or => exact List.any_eq_false.mpr fun item member => by simp [fails item member]

namespace Tree

/-- A group of comparisons says what its joiner makes of them. -/
theorem outcomes_map_leaf (test : α → Bool) (joiner : Joiner) (f : β → α) {items : List β}
    (nonempty : items ≠ []) :
    outcomes test joiner (items.map fun item => .leaf (f item)) =
      some (joiner.over (fun item => test (f item)) items) := by
  induction items with
  | nil => exact absurd rfl nonempty
  | cons item items ih =>
    rw [List.map_cons, outcomes, outcome, Joiner.over_cons]
    cases items with
    | nil => cases joiner <;> simp [outcomes, joinOutcome, Joiner.over, Joiner.combine]
    | cons next items => rw [ih (List.cons_ne_nil next items), joinOutcome]

theorem leavesAll_map_leaf (f : β → α) (items : List β) :
    leavesAll (items.map fun item => .leaf (f item)) = items.map f := by
  induction items with
  | nil => rfl
  | cons item items ih => exact congrArg (f item :: ·) ih

end Tree

/-- The operators that compare with lists, with the joiner that makes of the items what the list
is. -/
def listOperators : List (String × Comparison × Joiner) :=
  [("equal", .equal, .or), ("notEqual", .notEqual, .and)]

theorem Filter.resolve_equality {name : String} {c : Comparison} {joiner : Joiner}
    (listed : (name, c, joiner) ∈ listOperators) (field : String) {v : Operand}
    (fit : v.FitFor name) : Filter.resolve ⟨field, name, v⟩ = .ok ⟨field, c, v⟩ := by
  have known : (⟨name, c, none⟩ : Operator) ∈ Operator.all := by
    simp only [listOperators, List.mem_cons, Prod.mk.injEq, List.not_mem_nil, or_false] at listed
    rcases listed with ⟨rfl, rfl, _⟩ | ⟨rfl, rfl, _⟩ <;> decide
  refine Filter.resolve_eq_ok_iff.mpr ⟨_, v, Operator.ofName?_name known, ?_, rfl⟩
  exact Operator.prepare?_eq_some_iff.mpr ⟨(Operator.accepts_iff_fitFor known v).mpr fit, rfl⟩

theorem mem_equalityOperators_of_listed {name : String} {c : Comparison} {joiner : Joiner}
    (listed : (name, c, joiner) ∈ listOperators) : name ∈ equalityOperators :=
  List.mem_map_of_mem (f := Prod.fst) listed

namespace Memory

theorem equalsAny_eq_any (value : Json) (items : List Operand) :
    equalsAny value items = items.any (equals value) := by
  induction items with
  | nil => rfl
  | cons item items ih => rw [equalsAny, ih, List.any_cons]

theorem isNull_eq_false_of_isScalar {v : Operand} (scalar : v.isScalar = true) :
    isNull v = false := by
  cases v with
  | null => cases scalar
  | _ => rfl

section
variable {name : String} {c : Comparison} {joiner : Joiner}
  (listed : (name, c, joiner) ∈ listOperators)
include listed

theorem test_list (value : Json) (items : List Operand) :
    test value c (.list items) = joiner.over (test value c) items := by
  simp only [listOperators, List.mem_cons, Prod.mk.injEq, List.not_mem_nil, or_false] at listed
  rcases listed with ⟨rfl, rfl, rfl⟩ | ⟨rfl, rfl, rfl⟩
  · exact equalsAny_eq_any value items
  · change (!equals value (.list items)) = items.all fun item => !equals value item
    rw [equals, equalsAny_eq_any, List.not_any_eq_all_not]

theorem evaluate_list (field : String) {items : List Operand} (nonempty : items ≠ [])
    (scalars : ∀ item ∈ items, item.isScalar = true) (row : Json) :
    evaluate ⟨field, c, .list items⟩ row =
      joiner.over (fun item => evaluate ⟨field, c, item⟩ row) items := by
  cases found : present? field row with
  | none =>
    -- no item is null, so a missing value meets none of them, equal or not
    have fails : ∀ item ∈ items, evaluate ⟨field, c, item⟩ row = false := by
      intro item member
      simp only [evaluate, found, isNull_eq_false_of_isScalar (scalars item member), Bool.and_false]
    rw [joiner.over_eq_false nonempty fails]
    simp only [evaluate, found, isNull, Bool.and_false]
  | some value =>
    simp only [evaluate, found]
    exact test_list listed value items

end

end Memory

/-- A filter by a list, and one by its items, are both added, and keep the same rows. -/
theorem exists_filters_of_list {name : String} {c : Comparison} {joiner : Joiner}
    (listed : (name, c, joiner) ∈ listOperators) (field : String) {items : List Operand}
    (nonempty : items ≠ []) (scalars : ∀ item ∈ items, item.isScalar = true) (outer : Joiner) :
    ∃ whole parts, Query.filter {} outer (.leaf ⟨field, name, .list items⟩) = .ok whole ∧
      Query.filter {} outer (.group joiner (items.map fun item => .leaf ⟨field, name, item⟩)) =
        .ok parts ∧
      ∀ rows, Memory.kept rows whole = Memory.kept rows parts := by
  have equality := mem_equalityOperators_of_listed listed
  have resolves {v : Operand} (fit : v.FitFor name) := Filter.resolve_equality listed field fit
  have item_fits : ∀ item ∈ items, item.FitFor name :=
    fun item member => .scalar (.inl equality) (scalars item member)
  obtain ⟨whole, added, holds⟩ :=
    Query.exists_filter_of_resolve outer (resolves (.list equality scalars))
  obtain ⟨parts, added'⟩ : ∃ parts, Query.filter {} outer
      (.group joiner (items.map fun item => .leaf ⟨field, name, item⟩)) = .ok parts := by
    rw [Query.exists_filter_iff, Tree.leaves, Tree.leavesAll_map_leaf, List.forall_mem_map]
    exact item_fits
  refine ⟨whole, parts, added, added', fun rows => List.filter_congr fun row _ => ?_⟩
  rw [holds, Query.holds_of_filter added', Filter.outcome, Tree.outcome,
    Tree.outcomes_map_leaf _ _ _ nonempty, Option.getD_some,
    Memory.evaluate_list listed field nonempty scalars]
  refine joiner.over_congr fun item member => ?_
  rw [resolves (item_fits item member)]
  rfl

namespace Sql

/-- The operators of equality with the words they become, for a list as for null. The number is what
the one of an empty list is compared with. -/
def equalityWords : List (String × String × Nat × String) :=
  [("equal", "IN", 2, " IS NULL"), ("notEqual", "NOT IN", 1, " IS NOT NULL")]

/-- The operators that compare with a scalar, with the words they become. -/
def scalarWords : List (String × String) :=
  [("equal", "="), ("notEqual", "<>"), ("greaterThan", ">"), ("greaterThanOrEqual", ">="),
    ("lessThan", "<"), ("lessThanOrEqual", "<=")]

def patternWords : List (String × String × Wildcard) :=
  [("contains", "LIKE", .both), ("notContains", "NOT LIKE", .both),
    ("startsWith", "LIKE", .trailing), ("endsWith", "LIKE", .leading)]

/-- How a comparison of a filter is written: each scalar as the value it is, a pattern as the text
of its operand between wildcards, and a list with the values of all its items in their order. -/
inductive WrittenAs : DataGrid.Condition → List Piece → Prop
  | member {field name word : String} {n : Nat} {words : String} {items : List Operand}
      {vs : List Param} : (name, word, n, words) ∈ equalityWords → items ≠ [] →
      items.map param? = vs.map some →
      WrittenAs ⟨field, name, .list items⟩
        ([.ident field, .text (" " ++ word ++ " (")] ++ separatedParams vs ++ [.text ")"])
  | noItem {field name word : String} {n : Nat} {words : String} :
      (name, word, n, words) ∈ equalityWords →
      WrittenAs ⟨field, name, .list []⟩ [.param (.constant 1), .text " = ", .param (.constant n)]
  | null {field name word : String} {n : Nat} {words : String} :
      (name, word, n, words) ∈ equalityWords →
      WrittenAs ⟨field, name, .null⟩ [.ident field, .text words]
  | scalar {field name word : String} {v : Operand} {x : Param} :
      (name, word) ∈ scalarWords → param? v = some x →
      WrittenAs ⟨field, name, v⟩ [.ident field, .text (" " ++ word ++ " "), .param x]
  | pattern {field name word : String} {w : Wildcard} {v : Operand} {s : String} :
      (name, word, w) ∈ patternWords → v.text? = some s →
      WrittenAs ⟨field, name, v⟩
        [.ident field, .text (" " ++ word ++ " "), .param (.str (w.wrap s))]

theorem WrittenAs.ne_nothing {c : DataGrid.Condition} {ps : List Piece} (written : WrittenAs c ps) :
    ps ≠ nothing := by
  cases written <;> simp [nothing]

theorem writtenAs_membership (field : String) {name word : String} {n : Nat} {words : String}
    (listed : (name, word, n, words) ∈ equalityWords) {items : List Operand}
    (scalars : ∀ item ∈ items, item.isScalar = true) :
    WrittenAs ⟨field, name, .list items⟩ (membership field word n (items.filterMap param?)) := by
  obtain ⟨vs, hvs⟩ := exists_params_of_all (List.all_eq_true.mpr scalars)
  rw [filterMap_of_map_eq hvs]
  cases items with
  | nil =>
    cases List.map_eq_nil_iff.mp hvs.symm
    exact .noItem listed
  | cons item items =>
    cases vs with
    | nil => cases hvs
    | cons v vs => exact .member listed (List.cons_ne_nil item items) hvs

section
variable {o : Operator} (known : o ∈ Operator.all)
include known

theorem mem_scalarWords (plain : o.wildcard = none) :
    (o.name, o.comparison.word) ∈ scalarWords := by
  revert o
  decide

theorem mem_patternWords {w : Wildcard} (wild : o.wildcard = some w) :
    (o.name, o.comparison.word, w) ∈ patternWords := by
  revert o w
  decide

theorem eq_of_mem_equalityOperators (equality : o.name ∈ equalityOperators) :
    o = ⟨"equal", .equal, none⟩ ∨ o = ⟨"notEqual", .notEqual, none⟩ := by
  revert o
  decide

theorem writtenAs_scalar (field : String) {v : Operand} (scalar : v.isScalar = true) :
    WrittenAs ⟨field, o.name, v⟩ (predicate ⟨field, o.comparison, o.operand v⟩) := by
  have wildcards := Operator.wildcard_isSome known
  cases wild : o.wildcard with
  | none =>
    obtain ⟨x, hx⟩ := exists_param_of_isScalar scalar
    rw [wild] at wildcards
    have same : o.operand v = v := by rw [Operator.operand, wild]
    rw [same, predicate_value field wildcards.symm hx]
    exact .scalar (mem_scalarWords known wild) hx
  | some w =>
    obtain ⟨s, hs⟩ := Operand.exists_text_of_isScalar scalar
    rw [wild] at wildcards
    have wrapped : o.operand v = .str (w.wrap s) := by rw [Operator.operand, wild, hs]
    rw [wrapped, predicate_pattern field wildcards.symm]
    exact .pattern (mem_patternWords known wild) hs

theorem writtenAs_null (field : String) (equality : o.name ∈ equalityOperators) :
    WrittenAs ⟨field, o.name, .null⟩ (predicate ⟨field, o.comparison, o.operand .null⟩) := by
  rcases eq_of_mem_equalityOperators known equality with rfl | rfl
  · exact .null (.head _)
  · exact .null (.tail _ (.head _))

theorem writtenAs_list (field : String) (equality : o.name ∈ equalityOperators)
    {items : List Operand} (scalars : ∀ item ∈ items, item.isScalar = true) :
    WrittenAs ⟨field, o.name, .list items⟩
      (predicate ⟨field, o.comparison, o.operand (.list items)⟩) := by
  rcases eq_of_mem_equalityOperators known equality with rfl | rfl
  · exact writtenAs_membership field (.head _) scalars
  · exact writtenAs_membership field (.tail _ (.head _)) scalars

end

theorem writtenAs_of_resolve {c : DataGrid.Condition} {p : Predicate}
    (resolves : Filter.resolve c = .ok p) : WrittenAs c (predicate p) := by
  obtain ⟨o, v, named, prepared, rfl⟩ := Filter.resolve_eq_ok_iff.mp resolves
  obtain ⟨known, name⟩ := Operator.ofName?_eq_some_iff.mp named
  obtain ⟨accepts, rfl⟩ := Operator.prepare?_eq_some_iff.mp prepared
  have fit := (Operator.accepts_iff_fitFor known c.value).mp accepts
  obtain ⟨field, operator, value⟩ := c
  cases name
  cases fit with
  | scalar _ scalar => exact writtenAs_scalar known field scalar
  | null equality => exact writtenAs_null known field equality
  | list equality scalars => exact writtenAs_list known field equality scalars

namespace Condition

def Token.atom? : Token → Option Predicate
  | .atom p => some p
  | _ => none

theorem atoms_parenthesized (parens : Bool) (ts : List Token) :
    (if parens then parenthesized ts else ts).filterMap Token.atom? = ts.filterMap Token.atom? := by
  cases parens with
  | false => rfl
  | true =>
    rw [if_pos rfl, parenthesized, List.filterMap_append, List.filterMap_cons]
    exact List.append_nil _

theorem atoms_tokens (c : Condition) : c.tokens.filterMap Token.atom? = c.predicates := by
  induction c with
  | atom p => rfl
  | join joiner left right ihl ihr =>
    rw [tokens, List.filterMap_append, atoms_parenthesized, ihl,
      List.filterMap_cons_none rfl, atoms_parenthesized, ihr, predicates]

end Condition

theorem atoms_whereTokens (w : Where) :
    (whereTokens w).filterMap Condition.Token.atom? = w.predicates := by
  rw [← Condition.predicates_ofWhere?, whereTokens]
  cases Condition.ofWhere? w with
  | none => rfl
  | some c => exact Condition.atoms_tokens c

/-- The comparisons that a filter adds stand in the statement with all that they compare with. -/
theorem exists_written_of_filter {q q' : Query} {joiner : Joiner} {tree : Tree DataGrid.Condition}
    (added : q.filter joiner tree = .ok q') :
    ∃ ps : List Predicate,
      (whereTokens q'.clause).filterMap Condition.Token.atom? = q.clause.predicates ++ ps ∧
      List.Forall₂ (fun c p => WrittenAs c (predicate p)) tree.leaves ps := by
  obtain ⟨ps, resolved, predicates⟩ := Query.predicates_of_filter added
  refine ⟨ps, (atoms_whereTokens _).trans predicates, ?_⟩
  have paired : List.Forall₂ (fun c p => Filter.resolve c = .ok p) tree.leaves ps := by
    rw [← List.forall₂_map_right_iff, ← List.forall₂_map_left_iff (R := Eq), resolved,
      List.forall₂_eq_eq_eq]
  exact paired.imp fun c p => writtenAs_of_resolve

end Sql

/-- In memory a list of scalars is equal to what one of its items is equal to: a filter by a list
that is not empty keeps the rows that the group of the filters by its items keeps, joined by `or`
for `equal` and by `and` for `notEqual`, whatever a row has in the field or does not have. In a
statement every comparison that a filter adds is written as it is: one with a list has the values of
all its items in their order, and none is written as the condition that never holds. -/
theorem list_means_its_items :
    (∀ (field name : String) (c : Comparison) (joiner : Joiner),
      (name, c, joiner) ∈ listOperators → ∀ items : List Operand, items ≠ [] →
      (∀ item ∈ items, item.isScalar = true) → ∀ outer : Joiner,
      ∃ whole parts, Query.filter {} outer (.leaf ⟨field, name, .list items⟩) = .ok whole ∧
        Query.filter {} outer (.group joiner (items.map fun item => .leaf ⟨field, name, item⟩)) =
          .ok parts ∧
        ∀ rows, Memory.kept rows whole = Memory.kept rows parts) ∧
    ∀ (q q' : Query) (joiner : Joiner) (tree : Tree Condition), q.filter joiner tree = .ok q' →
      Sql.wherePart q'.clause = Sql.written (Sql.whereTokens q'.clause) ∧
      ∃ ps : List Predicate,
        (Sql.whereTokens q'.clause).filterMap Sql.Condition.Token.atom? =
          q.clause.predicates ++ ps ∧
        List.Forall₂ (fun c p =>
          Sql.WrittenAs c (Sql.predicate p) ∧ Sql.predicate p ≠ Sql.nothing) tree.leaves ps := by
  refine ⟨?_, fun q q' joiner tree added => ⟨Sql.wherePart_eq_written _, ?_⟩⟩
  · intro field name c joiner listed items nonempty scalars outer
    exact exists_filters_of_list listed field nonempty scalars outer
  · obtain ⟨ps, atoms, written⟩ := Sql.exists_written_of_filter added
    exact ⟨ps, atoms, written.imp fun c p shown => ⟨shown, shown.ne_nothing⟩⟩

/-- A list with a number, its text and the number again, in memory and in a statement. -/
theorem list_of_kinds_means_its_items :
    let items : List Operand := [.int 1, .str "1", .int 1]
    let leaf : Tree Condition := .leaf ⟨"a", "notEqual", .list items⟩
    ∃ q parts, Query.filter {} .or leaf = .ok q ∧
      Query.filter {} .or (.group .and (items.map fun item => .leaf ⟨"a", "notEqual", item⟩)) =
        .ok parts ∧
      (∀ rows, Memory.kept rows q = Memory.kept rows parts) ∧
      ∃ p, (Sql.whereTokens q.clause).filterMap Sql.Condition.Token.atom? = [p] ∧
        Sql.WrittenAs ⟨"a", "notEqual", .list items⟩ (Sql.predicate p) := by
  intro items leaf
  have scalars : ∀ item ∈ items, item.isScalar = true := by
    simp [items, Operand.isScalar]
  obtain ⟨memory, statement⟩ := list_means_its_items
  obtain ⟨q, parts, added, added', same⟩ := memory "a" "notEqual" .notEqual .and (by decide) items
    (List.cons_ne_nil _ _) scalars .or
  obtain ⟨_, ps, atoms, written⟩ := statement {} q .or leaf added
  obtain ⟨p, _, ⟨shown, _⟩, alone, rfl⟩ := List.forall₂_cons_left_iff.mp written
  rw [List.forall₂_nil_left_iff.mp alone] at atoms
  exact ⟨q, parts, added, added', same, p, atoms, shown⟩

end DataGrid
