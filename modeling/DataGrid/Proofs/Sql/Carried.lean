import DataGrid.Proofs.Execution.Prepare
import DataGrid.Proofs.Filter.Meaning
import DataGrid.Proofs.Filter.Resolve
import DataGrid.Proofs.Sql.Junction
import DataGrid.Proofs.Sql.Pieces
import DataGrid.Proofs.Sql.Template
import DataGrid.Sql.Select

namespace DataGrid

namespace Sql

namespace Condition

def predicates : Condition → List Predicate
  | .atom p => [p]
  | .join _ left right => left.predicates ++ right.predicates

/-- Gathering the entries of a clause keeps its predicates and their order. -/
theorem predicates_ofWhere? (w : Where) : ((ofWhere? w).map predicates).getD [] = w.predicates := by
  have hom (joiner : Joiner) (a b : Condition) :
      predicates (join joiner a b) = (fun _ => (· ++ ·)) joiner (predicates a) (predicates b) := rfl
  rw [ofWhere?_eq_fold, w.map_fold hom]
  exact w.fold_singletons

end Condition

theorem values_enclosed (parens : Bool) (ps : List Piece) :
    values (enclosed parens ps) = values ps := by
  cases parens with
  | false => rfl
  | true =>
    rw [enclosed_true, values_append, values_append]
    exact List.append_nil _

theorem values_pieces (c : Condition) :
    values c.pieces = c.predicates.flatMap fun p => values (predicate p) := by
  induction c with
  | atom p =>
    rw [Condition.pieces_atom, Condition.predicates, List.flatMap_singleton]
  | join joiner left right ihl ihr =>
    rw [Condition.pieces_join, values_append, values_text, values_enclosed, values_enclosed, ihl,
      ihr, Condition.predicates, List.flatMap_append]

theorem values_wherePart (w : Where) :
    values (wherePart w) = w.predicates.flatMap fun p => values (predicate p) := by
  rw [← Condition.predicates_ofWhere?, wherePart]
  cases Condition.ofWhere? w with
  | none => rfl
  | some c => exact values_pieces c

end Sql

def Comparison.word : Comparison → String
  | .equal => "="
  | .notEqual => "<>"
  | .greater => ">"
  | .greaterOrEqual => ">="
  | .less => "<"
  | .lessOrEqual => "<="
  | .like => "LIKE"
  | .notLike => "NOT LIKE"

namespace Sql

/-- The values that a predicate puts into a statement, in their order. A list without items is met
by comparing constants, and null by words alone. -/
inductive Carries : Predicate → List Param → Prop
  | scalar {field : String} {c : Comparison} {v : Operand} {x : Param} :
    c.isPattern = false → param? v = some x → Carries ⟨field, c, v⟩ [x]
  | pattern {field : String} {c : Comparison} {s : String} :
    c.isPattern = true → Carries ⟨field, c, .str s⟩ [.str s]
  | items {field : String} {c : Comparison} {items : List Operand} {vs : List Param} :
    c.isEquality = true → items ≠ [] → items.map param? = vs.map some →
    Carries ⟨field, c, .list items⟩ vs
  | inNothing {field : String} :
    Carries ⟨field, .equal, .list []⟩ [.constant 1, .constant 2]
  | notInNothing {field : String} :
    Carries ⟨field, .notEqual, .list []⟩ [.constant 1, .constant 1]
  | null {field : String} {c : Comparison} : c.isEquality = true → Carries ⟨field, c, .null⟩ []

/-- The value that a column is compared with: a pattern is a text, whatever the operand is. -/
def compared? (c : Comparison) (v : Operand) : Option Param :=
  if c.isPattern then patternParam? v else param? v

theorem predicate_scalar (field : String) (c : Comparison) {v : Operand}
    (scalar : v.isScalar = true) :
    predicate ⟨field, c, v⟩ = binary field c.word (compared? c v) := by
  cases v with
  | list items => cases scalar
  | null => cases scalar
  | bool b => cases c <;> rfl
  | int i => cases c <;> rfl
  | float x => cases c <;> rfl
  | str s => cases c <;> rfl

/-- A pattern stands against its column as the text that it is. -/
theorem predicate_pattern (field : String) {c : Comparison} (pattern : c.isPattern = true)
    (s : String) : predicate ⟨field, c, .str s⟩ =
      [.ident field, .text (" " ++ c.word ++ " "), .param (.str s)] := by
  have compared : compared? c (.str s) = some (.str s) := by
    rw [compared?, if_pos pattern]
    rfl
  rw [predicate_scalar field c rfl, compared]
  rfl

theorem exists_compared_of_isScalar (c : Comparison) {v : Operand} (scalar : v.isScalar = true) :
    ∃ x, compared? c v = some x := by
  cases v with
  | list items => cases scalar
  | null => cases scalar
  | _ => cases c <;> exact ⟨_, rfl⟩

theorem predicate_list (field : String) {c : Comparison} (equality : c.isEquality = true) :
    ∃ word emptyRight, ∀ items : List Operand, predicate ⟨field, c, .list items⟩ =
      membership field word emptyRight (items.filterMap param?) := by
  cases c with
  | equal => exact ⟨"IN", 2, fun _ => rfl⟩
  | notEqual => exact ⟨"NOT IN", 1, fun _ => rfl⟩
  | _ => cases equality

theorem isScalar_of_param? {v : Operand} {x : Param} (h : param? v = some x) :
    v.isScalar = true := by
  cases v with
  | list items => cases h
  | null => cases h
  | _ => rfl

theorem predicate_value (field : String) {c : Comparison} (plain : c.isPattern = false)
    {v : Operand} {x : Param} (value : param? v = some x) :
    predicate ⟨field, c, v⟩ = [.ident field, .text (" " ++ c.word ++ " "), .param x] := by
  have compared : compared? c v = some x := by
    rw [compared?, plain, if_neg Bool.false_ne_true, value]
  rw [predicate_scalar field c (isScalar_of_param? value), compared]
  rfl

theorem values_separatedParams (vs : List Param) : values (separatedParams vs) = vs := by
  induction vs with
  | nil => rfl
  | cons v vs ih =>
    cases vs with
    | nil => rfl
    | cons next vs => exact congrArg (v :: ·) ih

theorem values_membership (field word : String) (emptyRight : Nat) {vs : List Param}
    (nonempty : vs ≠ []) : values (membership field word emptyRight vs) = vs := by
  obtain ⟨v, vs, rfl⟩ := List.exists_cons_of_ne_nil nonempty
  rw [membership_cons, values_append, values_append, values_separatedParams]
  exact List.append_nil _

theorem filterMap_of_map_eq {f : α → Option β} {items : List α} {vs : List β}
    (h : items.map f = vs.map some) : items.filterMap f = vs := by
  calc items.filterMap f
      = (items.map f).filterMap id := by rw [List.filterMap_map]; rfl
    _ = vs := by rw [h, List.filterMap_map]; exact List.filterMap_some

theorem Carries.values_eq {p : Predicate} {vs : List Param} (h : Carries p vs) :
    values (predicate p) = vs := by
  cases h with
  | @scalar field c v x hc hx =>
    rw [predicate_value field hc hx]
    rfl
  | @pattern field c s hc =>
    rw [predicate_pattern field hc]
    rfl
  | @items field c items vs hc nonempty hitems =>
    obtain ⟨word, emptyRight, hpredicate⟩ := predicate_list field hc
    rw [hpredicate, filterMap_of_map_eq hitems]
    refine values_membership field word emptyRight ?_
    rintro rfl
    exact nonempty (List.map_eq_nil_iff.mp hitems)
  | inNothing => rfl
  | notInNothing => rfl
  | @null field c hc =>
    cases c with
    | equal => rfl
    | notEqual => rfl
    | _ => cases hc

theorem exists_param_of_isScalar {v : Operand} (scalar : v.isScalar = true) :
    ∃ x, param? v = some x := by
  cases v with
  | list items => cases scalar
  | null => cases scalar
  | _ => exact ⟨_, rfl⟩

theorem exists_params_of_all {items : List Operand} (scalars : items.all Operand.isScalar = true) :
    ∃ vs : List Param, items.map param? = vs.map some := by
  induction items with
  | nil => exact ⟨[], rfl⟩
  | cons item items ih =>
    rw [List.all_cons, Bool.and_eq_true] at scalars
    obtain ⟨x, hx⟩ := exists_param_of_isScalar scalars.1
    obtain ⟨vs, hvs⟩ := ih scalars.2
    exact ⟨x :: vs, by rw [List.map_cons, List.map_cons, hx, hvs]⟩

theorem exists_carries_list (field : String) {c : Comparison} (equality : c.isEquality = true)
    {items : List Operand} (scalars : items.all Operand.isScalar = true) :
    ∃ vs, Carries ⟨field, c, .list items⟩ vs := by
  cases items with
  | nil =>
    cases c with
    | equal => exact ⟨_, .inNothing⟩
    | notEqual => exact ⟨_, .notInNothing⟩
    | _ => cases equality
  | cons item items =>
    obtain ⟨vs, hvs⟩ := exists_params_of_all scalars
    exact ⟨vs, .items equality (List.cons_ne_nil _ _) hvs⟩

/-- The operand of a resolved comparison fits it, so it has values to be carried. -/
theorem exists_carries_of_prepare? {o : Operator} (ho : o ∈ Operator.all) {v w : Operand}
    (h : o.prepare? v = some w) (field : String) : ∃ vs, Carries ⟨field, o.comparison, w⟩ vs := by
  obtain ⟨accepts, rfl⟩ := Operator.prepare?_eq_some_iff.mp h
  have wildcards := Operator.wildcard_isSome ho
  cases wildcard : o.wildcard with
  | some wild =>
    rw [wildcard] at wildcards
    have scalar : v.isScalar = true := by simpa [Operator.accepts, wildcard] using accepts
    obtain ⟨s, hs⟩ := Operand.exists_text_of_isScalar scalar
    rw [Operator.operand, wildcard, hs]
    exact ⟨_, .pattern wildcards.symm⟩
  | none =>
    rw [wildcard] at wildcards
    have same : o.operand v = v := by rw [Operator.operand, wildcard]
    rw [same]
    rcases Operator.isScalar_or_isEquality_of_accepts wildcards.symm wildcard accepts with
      scalar | ⟨equality, rfl | ⟨items, rfl, scalars⟩⟩
    · obtain ⟨x, hx⟩ := exists_param_of_isScalar scalar
      exact ⟨[x], .scalar wildcards.symm hx⟩
    · exact ⟨[], .null equality⟩
    · exact exists_carries_list field equality scalars

theorem exists_carries_of_resolve {c : DataGrid.Condition} {p : Predicate}
    (h : Filter.resolve c = .ok p) : ∃ vs, Carries p vs := by
  obtain ⟨o, v, ho, hv, rfl⟩ := Filter.resolve_eq_ok_iff.mp h
  exact exists_carries_of_prepare? (List.mem_of_find?_eq_some ho) hv c.field

/-- Every predicate that a filter adds carries the values that it is written with. -/
theorem carries_of_filtered {filter : Option (Tree DataGrid.Condition)} {kept : Query}
    (h : filtered filter = .ok kept) :
    ∀ p ∈ kept.clause.predicates, Carries p (values (predicate p)) := by
  intro p hp
  cases filter with
  | none =>
    cases h
    cases hp
  | some tree =>
    obtain ⟨ps, resolved, predicates⟩ := Query.predicates_of_filter h
    have mapped : .ok p ∈ tree.leaves.map Filter.resolve := by
      rw [resolved]
      exact List.mem_map_of_mem (by rwa [predicates] at hp)
    obtain ⟨c, _, hc⟩ := List.mem_map.mp mapped
    obtain ⟨vs, hvs⟩ := exists_carries_of_resolve hc
    rw [hvs.values_eq]
    exact hvs

end Sql

end DataGrid
