import DataGrid.Memory.Table
import DataGrid.Proofs.Filter.Acceptance
import DataGrid.Proofs.Filter.Meaning
import DataGrid.Proofs.Sql.Carried
import DataGrid.Proofs.Sql.Where

namespace DataGrid

def Predicate.excludesNothing (p : Predicate) : Bool :=
  match p.comparison, p.value with
  | .notEqual, .list [] => true
  | _, _ => false

namespace Sql

/-- What a database says of one row, `truth` being the value of a predicate as it is written, where
the columns in `null` are NULL. Constants are compared as in any row. -/
structure NullRules (null : String → Prop) (truth : List Piece → Truth) : Prop where
  isNull {column : String} : null column → truth [.ident column, .text " IS NULL"] = .true
  isNotNull {column : String} : null column → truth [.ident column, .text " IS NOT NULL"] = .false
  /-- A comparison with a value is unknown, and so are LIKE and NOT LIKE. -/
  compared {column : String} (c : Comparison) (v : Param) :
    null column → truth [.ident column, .text (" " ++ c.word ++ " "), .param v] = .unknown
  member {column word : String} {vs : List Param} : null column → word ∈ ["IN", "NOT IN"] →
    vs ≠ [] → truth ([.ident column, .text (" " ++ word ++ " (")] ++ separatedParams vs ++
      [.text ")"]) = .unknown
  constants (m n : Nat) :
    truth [.param (.constant m), .text " = ", .param (.constant n)] =
      if m = n then .true else .false

section
variable {null : String → Prop} {truth : List Piece → Truth} {field : String}

theorem NullRules.binary (rules : NullRules null truth) (h : null field) (c : Comparison)
    (v : Param) : truth (binary field c.word (some v)) = .unknown :=
  rules.compared c v h

theorem NullRules.membership (rules : NullRules null truth) (h : null field) {word : String}
    (known : word ∈ ["IN", "NOT IN"]) (emptyRight : Nat) {vs : List Param} (nonempty : vs ≠ []) :
    truth (membership field word emptyRight vs) = .unknown := by
  obtain ⟨v, vs, rfl⟩ := List.exists_cons_of_ne_nil nonempty
  rw [membership_cons]
  exact rules.member h known nonempty

theorem NullRules.scalar (rules : NullRules null truth) (h : null field) (c : Comparison)
    {v : Operand} (scalar : v.isScalar = true) : truth (predicate ⟨field, c, v⟩) = .unknown := by
  obtain ⟨x, hx⟩ := exists_compared_of_isScalar c scalar
  rw [predicate_scalar field c scalar, hx]
  exact rules.binary h c x

theorem NullRules.items (rules : NullRules null truth) (h : null field) {c : Comparison}
    (equality : c.isEquality = true) {items : List Operand}
    (nonempty : items.filterMap param? ≠ []) :
    truth (predicate ⟨field, c, .list items⟩) = .unknown := by
  cases c with
  | equal => exact rules.membership h (List.mem_cons_self ..) 2 nonempty
  | notEqual => exact rules.membership h (List.mem_cons_of_mem _ (List.mem_cons_self ..)) 1 nonempty
  | _ => cases equality

theorem asks_nothing_of_isScalar (field : String) (c : Comparison) {v : Operand}
    (scalar : v.isScalar = true) :
    (c == .equal && Memory.isNull v) = false ∧ Predicate.excludesNothing ⟨field, c, v⟩ = false := by
  cases v with
  | list items => cases scalar
  | null => cases scalar
  | _ => cases c <;> exact ⟨rfl, rfl⟩

/-- On a NULL column a predicate is true just when it asks for null or excludes nothing. -/
theorem NullRules.isTrue_predicate (rules : NullRules null truth) {p : Predicate}
    {vs : List Param} (carries : Carries p vs) (h : null p.field) :
    (truth (predicate p)).isTrue =
      ((p.comparison == .equal && Memory.isNull p.value) || p.excludesNothing) := by
  cases carries with
  | @scalar field c v x _ hx =>
    have scalar : v.isScalar = true := isScalar_of_param? hx
    obtain ⟨not_null, excludes⟩ := asks_nothing_of_isScalar field c scalar
    rw [rules.scalar h c scalar, not_null, excludes]
    rfl
  | @pattern field c s _ =>
    obtain ⟨not_null, excludes⟩ := asks_nothing_of_isScalar field c (v := .str s) rfl
    rw [rules.scalar h c rfl, not_null, excludes]
    rfl
  | @items field c items vs equality nonempty hitems =>
    have carried : items.filterMap param? ≠ [] := by
      rw [filterMap_of_map_eq hitems]
      rintro rfl
      exact nonempty (List.map_eq_nil_iff.mp hitems)
    rw [rules.items h equality carried]
    obtain ⟨item, items, rfl⟩ := List.exists_cons_of_ne_nil nonempty
    cases c <;> rfl
  | inNothing => exact congrArg Truth.isTrue (rules.constants 1 2)
  | notInNothing => exact congrArg Truth.isTrue (rules.constants 1 1)
  | @null field c equality =>
    cases c with
    | equal => exact congrArg Truth.isTrue (rules.isNull h)
    | notEqual => exact congrArg Truth.isTrue (rules.isNotNull h)
    | _ => cases equality

end

section
variable {truth : List Piece → Truth} {row : Json} {tree : Tree DataGrid.Condition}

/-- A comparison of a filter that was added, as the database and as the table judge it. -/
theorem isTrue_of_missing (rules : NullRules (Memory.present? · row = none) truth)
    {c : DataGrid.Condition} {p : Predicate} (resolves : Filter.resolve c = .ok p)
    (missing : Memory.present? c.field row = none) :
    (truth (predicate p)).isTrue = (Memory.evaluate p row || p.excludesNothing) := by
  obtain ⟨vs, carries⟩ := exists_carries_of_resolve resolves
  obtain ⟨o, v, _, _, rfl⟩ := Filter.resolve_eq_ok_iff.mp resolves
  have null : Memory.present? c.field row = none := missing
  rw [rules.isTrue_predicate carries null, Memory.evaluate, null]

theorem excludesNothing_of_resolve {c : DataGrid.Condition} {p : Predicate}
    (resolves : Filter.resolve c = .ok p) (excludes : p.excludesNothing = true) :
    c.operator = "notEqual" ∧ c.value = .list [] := by
  obtain ⟨o, v, found, prepared, rfl⟩ := Filter.resolve_eq_ok_iff.mp resolves
  obtain ⟨known, name⟩ := Operator.ofName?_eq_some_iff.mp found
  obtain ⟨_, operand⟩ := Operator.prepare?_eq_some_iff.mp prepared
  have excluded : o.comparison = .notEqual ∧ v = .list [] := by
    unfold Predicate.excludesNothing at excludes
    split at excludes
    · next comparison value => exact ⟨comparison, value⟩
    · cases excludes
  have plain : ∀ o ∈ Operator.all, o.comparison = .notEqual →
      o = ⟨"notEqual", .notEqual, none⟩ := by decide
  have same := plain o known excluded.1
  subst same
  exact ⟨name.symm, operand.trans excluded.2⟩

variable {joiner : Joiner} {q : Query}

theorem holds_of_plain (added : Query.filter {} joiner tree = .ok q)
    (plain : ∀ c ∈ tree.leaves, ¬(c.operator = "notEqual" ∧ c.value = .list []))
    (test : Predicate → Bool) :
    q.clause.holds (fun p => test p || p.excludesNothing) = q.clause.holds test := by
  apply Query.holds_congr added
  intro c hc p resolves
  have excludes : p.excludesNothing = false := by
    rw [Bool.eq_false_iff]
    intro excludes
    exact plain c hc (excludesNothing_of_resolve resolves excludes)
  rw [excludes, Bool.or_false]

/-- The database keeps the row where the table does, if the exclusion of nothing counts as true. -/
theorem keeps_of_missing_iff (added : Query.filter {} joiner tree = .ok q)
    (missing : ∀ c ∈ tree.leaves, Memory.present? c.field row = none)
    (rules : NullRules (Memory.present? · row = none) truth) :
    Keeps (fun p => truth (predicate p)) (whereTokens q.clause) ↔
      q.clause.holds (fun p => Memory.evaluate p row || p.excludesNothing) = true := by
  have alike := Query.holds_congr added fun c hc p resolves =>
    isTrue_of_missing rules resolves (missing c hc)
  rw [keeps_whereTokens_iff, alike]

end

/-- A row that has none of the fields of a filter, in a table in memory and in a database where the
columns of those fields are NULL. The filter is written as its WHERE part. The database keeps the
row where the table does, counting each exclusion of the items of an empty list as true; so it keeps
every such row that the table keeps, and both keep the same ones if the filter excludes no empty
list. -/
theorem null_row_is_kept_alike_unless_nothing_excluded {joiner : Joiner} {q : Query}
    {tree : Tree DataGrid.Condition} {row : Json} {truth : List Piece → Truth}
    (added : Query.filter {} joiner tree = .ok q)
    (missing : ∀ c ∈ tree.leaves, Memory.present? c.field row = none)
    (rules : NullRules (Memory.present? · row = none) truth) :
    wherePart q.clause = written (whereTokens q.clause) ∧
    (Keeps (fun p => truth (predicate p)) (whereTokens q.clause) ↔
      q.clause.holds (fun p => Memory.evaluate p row || p.excludesNothing) = true) ∧
    ∀ rows, row ∈ rows →
      (row ∈ Memory.kept rows q →
        Keeps (fun p => truth (predicate p)) (whereTokens q.clause)) ∧
      ((∀ c ∈ tree.leaves, ¬(c.operator = "notEqual" ∧ c.value = .list [])) →
        (row ∈ Memory.kept rows q ↔
          Keeps (fun p => truth (predicate p)) (whereTokens q.clause))) := by
  have database := keeps_of_missing_iff added missing rules
  refine ⟨wherePart_eq_written q.clause, database, fun rows present => ⟨?_, fun plain => ?_⟩⟩
  · intro kept
    apply database.mpr
    apply Query.holds_mono added (fun p => ?_) (List.mem_filter.mp kept).2
    cases Memory.evaluate p row with
    | true => exact Bool.le_refl true
    | false => exact Bool.false_le _
  · have table : row ∈ Memory.kept rows q ↔ q.clause.holds (Memory.evaluate · row) = true := by
      rw [Memory.kept, List.mem_filter, and_iff_right present]
    rw [table, database, holds_of_plain added plain]

def truthOfNulls : List Piece → Truth
  | [.ident _, .text words] =>
    if words = " IS NULL" then .true else if words = " IS NOT NULL" then .false else .unknown
  | [.param (.constant m), .text " = ", .param (.constant n)] => if m = n then .true else .false
  | _ => .unknown

theorem nullRules_truthOfNulls (null : String → Prop) : NullRules null truthOfNulls where
  isNull _ := rfl
  isNotNull _ := rfl
  compared _ _ _ := rfl
  member _ _ nonempty := by
    obtain ⟨v, vs, rfl⟩ := List.exists_cons_of_ne_nil nonempty
    cases vs <;> rfl
  constants _ _ := rfl

/-- A field that is null and one that is missing, in a row that meets one alternative of three. -/
theorem null_row_of_alternatives :
    let row : Json := .obj [("a", .null)]
    let tree : Tree DataGrid.Condition := .group .or [
      .leaf ⟨"a", "notContains", .str "x"⟩,
      .leaf ⟨"b", "notEqual", .list [.int 1, .int 2]⟩,
      .group .and [.leaf ⟨"a", "equal", .null⟩, .leaf ⟨"b", "equal", .null⟩]]
    ∃ q, Query.filter {} .and tree = .ok q ∧ row ∈ Memory.kept [row] q ∧
      Keeps (fun p => truthOfNulls (predicate p)) (whereTokens q.clause) := by
  intro row tree
  obtain ⟨q, added, holds⟩ : ∃ q, Query.filter {} .and tree = .ok q ∧
      q.clause.holds (Memory.evaluate · row) = true := ⟨_, rfl, rfl⟩
  have kept : row ∈ Memory.kept [row] q := List.mem_filter.mpr ⟨List.mem_singleton_self row, holds⟩
  have missing : ∀ c ∈ tree.leaves, Memory.present? c.field row = none := by
    have absent : tree.leaves.all (fun c => (Memory.present? c.field row).isNone) = true := rfl
    exact fun c hc => Option.isNone_iff_eq_none.mp (List.all_eq_true.mp absent c hc)
  obtain ⟨_, _, agree⟩ := null_row_is_kept_alike_unless_nothing_excluded added missing
    (nullRules_truthOfNulls (Memory.present? · row = none))
  exact ⟨q, added, kept, (agree [row] (List.mem_singleton_self row)).1 kept⟩

/-- The exclusion of nothing: the table drops a row that every database with the rules keeps. -/
theorem null_row_is_dropped_when_nothing_excluded :
    let row : Json := .obj [("a", .null)]
    ∃ tree q, Filter.parse (.arr [.str "a", .str "notEqual", .arr []]) = .ok tree ∧
      Query.filter {} .and tree = .ok q ∧
      (∀ c ∈ tree.leaves, Memory.present? c.field row = none) ∧
      row ∉ Memory.kept [row] q ∧
      ∀ truth, NullRules (Memory.present? · row = none) truth →
        Keeps (fun p => truth (predicate p)) (whereTokens q.clause) := by
  intro row
  let tree : Tree DataGrid.Condition := .leaf ⟨"a", "notEqual", .list []⟩
  obtain ⟨q, added, dropped, counted⟩ : ∃ q, Query.filter {} .and tree = .ok q ∧
      q.clause.holds (Memory.evaluate · row) = false ∧
      q.clause.holds (fun p => Memory.evaluate p row || p.excludesNothing) = true :=
    ⟨_, rfl, rfl, rfl⟩
  have missing : ∀ c ∈ tree.leaves, Memory.present? c.field row = none := by
    intro c hc
    rw [List.mem_singleton.mp hc]
    rfl
  refine ⟨tree, q, rfl, added, missing, fun kept => ?_, fun truth rules => ?_⟩
  · have holds := (List.mem_filter.mp kept).2
    rw [dropped] at holds
    cases holds
  · exact (keeps_of_missing_iff added missing rules).mpr counted

end Sql

end DataGrid
