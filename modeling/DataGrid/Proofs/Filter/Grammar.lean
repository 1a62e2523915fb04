import DataGrid.Proofs.Filter.Parsing
import DataGrid.Proofs.Operand

namespace DataGrid.Filter

inductive Joins : Option Json → Joiner → Prop where
  | unnamed : Joins none .and
  | named (joiner : Joiner) : Joins (some (.str joiner.symbol)) joiner

mutual

/-- The values that are nodes of a filter, and their trees. -/
inductive Node : Json → Tree Condition → Prop where
  | objectGroup {fields : List (String × Json)} {items : List Json} {joiner : Joiner}
      {trees : List (Tree Condition)} (children : childrenOf? fields = some (.arr items))
      (joins : Joins (fields.lookup "operator") joiner) (nodes : Nodes items trees) :
      Node (.obj fields) (.group joiner trees)
  | objectComparison {fields : List (String × Json)} {field operator : String} {value : Json}
      {operand : Operand} (no_children : childrenOf? fields = none)
      (hfield : fields.lookup "field" = some (.str field))
      (hoperator : fields.lookup "operator" = some (.str operator))
      (hvalue : fields.lookup "value" = some value) (named : field ≠ "")
      (read : Operand.ofJson? value = some operand) :
      Node (.obj fields) (.leaf ⟨field, operator, operand⟩)
  | arrayComparison {field operator : String} {value : Json} {operand : Operand}
      (named : field ≠ "") (read : Operand.ofJson? value = some operand) :
      Node (.arr [.str field, .str operator, value]) (.leaf ⟨field, operator, operand⟩)
  | empty : Node (.arr []) (.group .and [])
  | arrayGroup {items : List Json} {runs : List Run} (nodes : Sequence items runs) :
      Node (.arr items) (ofRuns runs)

inductive Nodes : List Json → List (Tree Condition) → Prop where
  | nil : Nodes [] []
  | cons {item : Json} {items : List Json} {tree : Tree Condition} {trees : List (Tree Condition)}
      (node : Node item tree) (nodes : Nodes items trees) : Nodes (item :: items) (tree :: trees)

inductive Sequence : List Json → List Run → Prop where
  | node {item : Json} {items : List Json} {tree : Tree Condition} {runs : List Run}
      (node : Node item tree) (rest : Rest items runs) :
      Sequence (item :: items) (addToRun tree runs)

/-- After a node an array ends, or goes on with a node, before which a separator may stand. -/
inductive Rest : List Json → List Run → Prop where
  | done : Rest [] [[]]
  | next {items : List Json} {runs : List Run} (nodes : Sequence items runs) : Rest items runs
  | separated {items : List Json} {runs : List Run} (joiner : Joiner)
      (nodes : Sequence items runs) : Rest (.str joiner.symbol :: items) (runsAfter joiner runs)

end

theorem groupJoiner_eq_ok_iff_joins {path : Path} {operator : Option Json} {joiner : Joiner} :
    groupJoiner path operator = .ok joiner ↔ Joins operator joiner := by
  rw [groupJoiner_eq_ok_iff]
  constructor
  · rintro (⟨rfl, rfl⟩ | rfl)
    · exact .unnamed
    · exact .named joiner
  · rintro (_ | _)
    · exact .inl ⟨rfl, rfl⟩
    · exact .inr rfl

theorem Joins.unique {operator : Option Json} {joiner joiner' : Joiner} (h : Joins operator joiner)
    (h' : Joins operator joiner') : joiner = joiner' := by
  have read : groupJoiner [] operator = .ok joiner := groupJoiner_eq_ok_iff_joins.mpr h
  rw [groupJoiner_eq_ok_iff_joins.mpr h', Except.ok.injEq] at read
  exact read.symm

theorem Node.ne_str {item : Json} {tree : Tree Condition} (h : Node item tree) (s : String) :
    item ≠ .str s := by
  cases h <;> exact nofun

/-- An array of nodes starts with one, and so with no text. -/
theorem Sequence.starts_with_node {items : List Json} {runs : List Run} (h : Sequence items runs) :
    items ≠ [] ∧ ∀ s rest, items ≠ .str s :: rest := by
  cases h with
  | node node rest =>
    refine ⟨List.cons_ne_nil _ _, fun s rest same => ?_⟩
    exact node.ne_str s (List.cons.inj same).1

mutual

theorem parseAt_of_node : {value : Json} → {tree : Tree Condition} → Node value tree →
    ∀ path, parseAt path value = .ok tree
  | _, _, .objectGroup children joins nodes, path => by
    obtain ⟨key, read⟩ := parseAt_group_eq_ok_iff children
    exact read.mpr ⟨_, _, groupJoiner_eq_ok_iff_joins.mpr joins,
      parseChildren_of_nodes nodes key path 0, rfl⟩
  | _, _, .objectComparison no_children hfield hoperator hvalue named read, path => by
    rw [parseAt_of_no_children no_children]
    exact objectComparison_eq_ok_iff.mpr ⟨_, _, hfield, hvalue,
      comparison_eq_ok_iff.mpr ⟨_, _, _, rfl, named, hoperator, read, rfl⟩⟩
  | _, _, .arrayComparison named read, path => by
    rw [parseAt]
    exact arrayComparison_eq_ok_iff.mpr ⟨_, _, _, rfl,
      comparison_eq_ok_iff.mpr ⟨_, _, _, rfl, named, rfl, read, rfl⟩⟩
  | _, _, .empty, _ => rfl
  | _, _, .arrayGroup nodes, path => by
    obtain ⟨nonempty, first⟩ := nodes.starts_with_node
    exact (parseAt_array_eq_ok_iff first nonempty).mpr
      ⟨_, parseRuns_of_sequence nodes path 0 false, rfl⟩

theorem parseChildren_of_nodes : {items : List Json} → {trees : List (Tree Condition)} →
    Nodes items trees → ∀ key path index, parseChildren key path index items = .ok trees
  | _, _, .nil, _, _, _ => rfl
  | _, _, .cons node nodes, key, path, index =>
    parseChildren_cons_eq_ok_iff.mpr ⟨_, _, parseAt_of_node node _,
      parseChildren_of_nodes nodes key path (index + 1), rfl⟩

theorem parseRuns_of_sequence : {items : List Json} → {runs : List Run} → Sequence items runs →
    ∀ path index afterNode, parseRuns path index afterNode items = .ok runs
  | _, _, .node node rest, path, index, _ =>
    (parseRuns_node_eq_ok_iff node.ne_str).mpr ⟨_, _, parseAt_of_node node _,
      parseRuns_of_rest rest path (index + 1), rfl⟩

theorem parseRuns_of_rest : {items : List Json} → {runs : List Run} → Rest items runs →
    ∀ path index, parseRuns path index true items = .ok runs
  | _, _, .done, _, _ => rfl
  | _, _, .next nodes, path, index => parseRuns_of_sequence nodes path index true
  | _, _, .separated joiner nodes, path, index =>
    parseRuns_separator_eq_ok_iff.mpr ⟨rfl, joiner, _, rfl,
      parseRuns_of_sequence nodes path (index + 1) false, rfl⟩

end

/-- What is left of an array is read as a sequence of nodes, or as the rest of one. -/
def Reads (afterNode : Bool) (items : List Json) (runs : List Run) : Prop :=
  if afterNode then Rest items runs else Sequence items runs

theorem reads_of_sequence {items : List Json} {runs : List Run} (h : Sequence items runs)
    (afterNode : Bool) : Reads afterNode items runs := by
  cases afterNode with
  | false => exact h
  | true => exact .next h

theorem exists_lookup_of_childrenOf? {fields : List (String × Json)} {value : Json}
    (h : childrenOf? fields = some value) : ∃ name, fields.lookup name = some value := by
  rcases Option.or_eq_some_iff.mp h with filters | ⟨_, children⟩
  · exact ⟨"filters", filters⟩
  · exact ⟨"children", children⟩

mutual

theorem node_of_parseAt : (value : Json) → ∀ {path : Path} {tree : Tree Condition},
    parseAt path value = .ok tree → Node value tree
  | .null, _, _, h | .bool _, _, _, h | .num _, _, _, h | .str _, _, _, h => by cases h
  | .arr items, path, tree, h => by
    by_cases text : ∃ s rest, items = .str s :: rest
    · obtain ⟨s, rest, rfl⟩ := text
      rw [parseAt] at h
      obtain ⟨_, _, value, parts, h⟩ := arrayComparison_eq_ok_iff.mp h
      obtain ⟨f, o, operand, ⟨⟩, named, ⟨⟩, read, rfl⟩ := comparison_eq_ok_iff.mp h
      rw [parts]
      exact .arrayComparison named read
    by_cases nonempty : items = []
    · subst nonempty
      cases h
      exact .empty
    · obtain ⟨runs, hruns, rfl⟩ := (parseAt_array_eq_ok_iff (by simpa using text) nonempty).mp h
      have nodes : Reads false items runs := reads_of_parseRuns items hruns
      exact .arrayGroup nodes
  | .obj fields, path, tree, h => by
    cases hchildren : childrenOf? fields with
    | none =>
      rw [parseAt_of_no_children hchildren] at h
      obtain ⟨_, value, hfield, hvalue, h⟩ := objectComparison_eq_ok_iff.mp h
      obtain ⟨f, o, operand, ⟨⟩, named, hoperator, read, rfl⟩ := comparison_eq_ok_iff.mp h
      exact .objectComparison hchildren hfield hoperator hvalue named read
    | some value =>
      obtain ⟨key, reads⟩ := parseAt_group_eq_ok_iff hchildren
      obtain ⟨joiner, trees, joins, htrees, rfl⟩ := reads.mp h
      obtain ⟨name, found⟩ := exists_lookup_of_childrenOf? hchildren
      obtain ⟨items, rfl, nodes⟩ := nodes_of_lookup fields found htrees
      exact .objectGroup hchildren (groupJoiner_eq_ok_iff_joins.mp joins) nodes

theorem reads_of_parseRuns : (items : List Json) → ∀ {path : Path} {index : Nat}
    {afterNode : Bool} {runs : List Run}, parseRuns path index afterNode items = .ok runs →
    Reads afterNode items runs
  | [], _, _, _, _, h => by
    obtain ⟨rfl, rfl⟩ := parseRuns_nil_eq_ok_iff.mp h
    exact .done
  | item :: items, path, index, afterNode, runs, h => by
    by_cases text : ∃ s, item = .str s
    · obtain ⟨s, rfl⟩ := text
      obtain ⟨rfl, joiner, after, rfl, hafter, rfl⟩ := parseRuns_separator_eq_ok_iff.mp h
      have nodes : Reads false items after := reads_of_parseRuns items hafter
      exact .separated joiner nodes
    · obtain ⟨tree, after, htree, hafter, rfl⟩ :=
        (parseRuns_node_eq_ok_iff (by simpa using text)).mp h
      have rest : Reads true items after := reads_of_parseRuns items hafter
      exact reads_of_sequence (.node (node_of_parseAt item htree) rest) afterNode

theorem nodes_of_lookup : (fields : List (String × Json)) → ∀ {name key : String} {value : Json}
    {path : Path} {trees : List (Tree Condition)}, fields.lookup name = some value →
    parseChildrenOf key path value = .ok trees → ∃ items, value = .arr items ∧ Nodes items trees
  | (n, v) :: fields, name, _, _, _, _, found, h => by
    rw [List.lookup_cons] at found
    split at found
    · cases found
      exact nodes_of_parseChildrenOf v h
    · exact nodes_of_lookup fields found h

theorem nodes_of_parseChildrenOf : (value : Json) → ∀ {key : String} {path : Path}
    {trees : List (Tree Condition)}, parseChildrenOf key path value = .ok trees →
    ∃ items, value = .arr items ∧ Nodes items trees
  | .arr items, _, _, _, h => ⟨items, rfl, nodes_of_parseChildren items h⟩
  | .null, _, _, _, h | .bool _, _, _, _, h | .num _, _, _, _, h | .str _, _, _, _, h
  | .obj _, _, _, _, h => by cases h

theorem nodes_of_parseChildren : (items : List Json) → ∀ {key : String} {path : Path} {index : Nat}
    {trees : List (Tree Condition)}, parseChildren key path index items = .ok trees →
    Nodes items trees
  | [], _, _, _, _, h => by
    cases h
    exact .nil
  | item :: items, _, _, _, _, h => by
    obtain ⟨tree, trees, htree, htrees, rfl⟩ := parseChildren_cons_eq_ok_iff.mp h
    exact .cons (node_of_parseAt item htree) (nodes_of_parseChildren items htrees)

end

theorem parseAt_eq_ok_iff {path : Path} {value : Json} {tree : Tree Condition} :
    parseAt path value = .ok tree ↔ Node value tree :=
  ⟨node_of_parseAt value, fun node => parseAt_of_node node path⟩

theorem parse_eq_ok_iff {value : Json} {tree : Tree Condition} :
    parse value = .ok tree ↔ Node value tree :=
  parseAt_eq_ok_iff

theorem parseAt_eq_ok_iff_parse {path : Path} {value : Json} {tree : Tree Condition} :
    parseAt path value = .ok tree ↔ parse value = .ok tree :=
  parseAt_eq_ok_iff.trans parse_eq_ok_iff.symm

section
variable {joiner : Joiner} {items : List Json} {trees : List (Tree Condition)}

theorem sequence_intersperse (joiner : Joiner) (nonempty : items ≠ []) (h : Nodes items trees) :
    Sequence (items.intersperse (.str joiner.symbol)) (runsOf joiner trees) := by
  induction items generalizing trees with
  | nil => exact absurd rfl nonempty
  | cons item items ih =>
    cases h with
    | @cons _ _ tree rest node nodes =>
      cases nodes with
      | nil =>
        have last : Sequence [item] (addToRun tree [[]]) := .node node .done
        cases joiner <;> exact last
      | @cons next items _ _ second others =>
        have sequence := ih (List.cons_ne_nil next items) (.cons second others)
        have whole := Sequence.node node (.separated joiner sequence)
        cases joiner <;> exact whole

theorem exists_of_rest_text {symbol : String} {rest : List Json} {runs : List Run}
    (h : Rest (.str symbol :: rest) runs) : ∃ after, Sequence rest after := by
  cases h with
  | next nodes => exact absurd rfl (nodes.starts_with_node.2 symbol rest)
  | separated _ nodes => exact ⟨_, nodes⟩

theorem exists_nodes_of_sequence {runs : List Run}
    (h : Sequence (items.intersperse (.str joiner.symbol)) runs) : ∃ trees, Nodes items trees := by
  induction items generalizing runs with
  | nil => cases h
  | cons item items ih =>
    cases items with
    | nil =>
      cases h with
      | node node _ => exact ⟨_, .cons node .nil⟩
    | cons next items =>
      rw [List.intersperse_cons_cons] at h
      cases h with
      | node node rest =>
        obtain ⟨_, nodes⟩ := exists_of_rest_text rest
        obtain ⟨trees, others⟩ := ih nodes
        exact ⟨_, .cons node others⟩

theorem Nodes.length_eq (h : Nodes items trees) : trees.length = items.length := by
  induction items generalizing trees with
  | nil =>
    cases h
    rfl
  | cons item items ih =>
    cases h with
    | cons _ nodes => exact congrArg (· + 1) (ih nodes)

end

theorem Node.unique {value : Json} {tree tree' : Tree Condition} (h : Node value tree)
    (h' : Node value tree') : tree = tree' := by
  have read := parse_eq_ok_iff.mpr h
  rw [parse_eq_ok_iff.mpr h', Except.ok.injEq] at read
  exact read.symm

/-- An object with a field has the comparison that an array of its three parts has. -/
theorem parse_object_comparison {fields : List (String × Json)} {field : String}
    {operator value : Json} (no_children : childrenOf? fields = none)
    (hfield : fields.lookup "field" = some (.str field))
    (hoperator : fields.lookup "operator" = some operator)
    (hvalue : fields.lookup "value" = some value) :
    parse (.obj fields) = parse (.arr [.str field, operator, value]) := by
  rw [parse, parse, parseAt_of_no_children no_children, parseAt, objectComparison]
  simp only [Json.get?, hfield, hoperator, hvalue]
  rfl

theorem node_of_same_children {fields fields' : List (String × Json)} {tree : Tree Condition}
    (has : childrenOf? fields ≠ none) (same : childrenOf? fields' = childrenOf? fields)
    (same_operator : fields'.lookup "operator" = fields.lookup "operator")
    (h : Node (.obj fields) tree) : Node (.obj fields') tree := by
  cases h with
  | objectGroup children joins nodes =>
    rw [← same] at children
    rw [← same_operator] at joins
    exact .objectGroup children joins nodes
  | objectComparison no_children => exact absurd no_children has

theorem exists_sequence_of_node {items : List Json} {tree : Tree Condition}
    (nonempty : items ≠ []) (first : ∀ s rest, items ≠ .str s :: rest)
    (h : Node (.arr items) tree) : ∃ runs, Sequence items runs ∧ tree = ofRuns runs := by
  cases h with
  | arrayComparison => exact absurd rfl (first _ _)
  | empty => exact absurd rfl nonempty
  | arrayGroup sequence => exact ⟨_, sequence, rfl⟩

section
variable {joiner : Joiner} {items : List Json} {fields : List (String × Json)}
  {tree : Tree Condition}

/-- A node with the same separator between each two items has a tree for each item. -/
theorem exists_nodes_of_node_intersperse (several : 2 ≤ items.length)
    (first : ∀ s rest, items ≠ .str s :: rest)
    (h : Node (.arr (items.intersperse (.str joiner.symbol))) tree) :
    ∃ trees, Nodes items trees := by
  match items, several with
  | item :: next :: rest, _ =>
    have starts (s : String) (others : List Json) :
        (item :: next :: rest).intersperse (.str joiner.symbol) ≠ .str s :: others := by
      rw [List.intersperse_cons_cons]
      rintro ⟨⟩
      exact first _ _ rfl
    have nonempty : (item :: next :: rest).intersperse (.str joiner.symbol) ≠ [] := by
      rw [List.intersperse_cons_cons]
      exact List.cons_ne_nil _ _
    obtain ⟨_, sequence, _⟩ := exists_sequence_of_node nonempty starts h
    exact exists_nodes_of_sequence sequence

theorem node_intersperse (several : 2 ≤ items.length) {trees : List (Tree Condition)}
    (nodes : Nodes items trees) :
    Node (.arr (items.intersperse (.str joiner.symbol))) (.group joiner trees) := by
  have nonempty : items ≠ [] := by
    rintro rfl
    simp at several
  have group := Node.arrayGroup (sequence_intersperse joiner nonempty nodes)
  rwa [ofRuns_runsOf joiner (nodes.length_eq.symm ▸ several)] at group

/-- An array with the same separator between each two items is the group that an object with the
separator for its joiner makes of the items. -/
theorem node_intersperse_iff (several : 2 ≤ items.length)
    (first : ∀ s rest, items ≠ .str s :: rest)
    (children : childrenOf? fields = some (.arr items))
    (joins : Joins (fields.lookup "operator") joiner) :
    Node (.arr (items.intersperse (.str joiner.symbol))) tree ↔ Node (.obj fields) tree := by
  constructor
  · intro h
    obtain ⟨trees, nodes⟩ := exists_nodes_of_node_intersperse several first h
    rw [h.unique (node_intersperse several nodes)]
    exact .objectGroup children joins nodes
  · intro h
    cases h with
    | objectGroup children' joins' nodes =>
      rw [children', Option.some.injEq, Json.arr.injEq] at children
      rw [joins'.unique joins]
      exact node_intersperse several (children ▸ nodes)
    | objectComparison no_children =>
      rw [no_children] at children
      cases children

end

/-- The parser reads just the nodes of the grammar, each as its tree, and the operand of a
comparison is any value without an object in it. Shapes with the same parts are read alike: the two
comparisons, the two keys for the children of a group, and a group as an object or as an array that
has the joiner between each two nodes. -/
theorem parse_reads_just_the_nodes :
    (∀ (value : Json) (tree : Tree Condition), parse value = .ok tree ↔ Node value tree) ∧
    (∀ value : Json, (∃ operand, Operand.ofJson? value = some operand) ↔
      value.holdsObject = false) ∧
    (∀ (fields : List (String × Json)) (field : String) (operator value : Json),
      childrenOf? fields = none → fields.lookup "field" = some (.str field) →
      fields.lookup "operator" = some operator → fields.lookup "value" = some value →
      parse (.obj fields) = parse (.arr [.str field, operator, value])) ∧
    (∀ (fields fields' : List (String × Json)) (tree : Tree Condition),
      childrenOf? fields ≠ none → childrenOf? fields' = childrenOf? fields →
      fields'.lookup "operator" = fields.lookup "operator" →
      (parse (.obj fields') = .ok tree ↔ parse (.obj fields) = .ok tree)) ∧
    (∀ (joiner : Joiner) (items : List Json) (fields : List (String × Json))
      (tree : Tree Condition),
      2 ≤ items.length → (∀ s rest, items ≠ .str s :: rest) →
      childrenOf? fields = some (.arr items) → Joins (fields.lookup "operator") joiner →
      (parse (.arr (items.intersperse (.str joiner.symbol))) = .ok tree ↔
        parse (.obj fields) = .ok tree)) := by
  refine ⟨fun value tree => parse_eq_ok_iff, fun value => Operand.exists_ofJson?_iff,
    fun fields field operator value no_children hfield hoperator hvalue =>
      parse_object_comparison no_children hfield hoperator hvalue,
    fun fields fields' tree has same same_operator => ?_,
    fun joiner items fields tree several first children joins => ?_⟩
  · rw [parse_eq_ok_iff, parse_eq_ok_iff]
    constructor
    · exact node_of_same_children (same ▸ has) same.symm same_operator.symm
    · exact node_of_same_children has same same_operator
  · rw [parse_eq_ok_iff, parse_eq_ok_iff]
    exact node_intersperse_iff several first children joins

/-- A comparison and an empty group, with `or` between them. -/
theorem or_of_comparison_and_empty :
    let comparison : List (String × Json) :=
      [("field", .str "age"), ("operator", .str ">"), ("value", .arr [.null])]
    let items : List Json := [.obj comparison, .arr []]
    let group : List (String × Json) := [("operator", .str "or"), ("children", .arr items)]
    let tree : Tree Condition :=
      .group .or [.leaf ⟨"age", ">", .list [.null]⟩, .group .and []]
    parse (.obj comparison) = parse (.arr [.str "age", .str ">", .arr [.null]]) ∧
    parse (.obj group) = .ok tree ∧
    parse (.obj [("operator", .str "or"), ("filters", .arr items)]) = .ok tree ∧
    parse (.arr [.obj comparison, .str "or", .arr []]) = .ok tree := by
  intro comparison items group tree
  obtain ⟨nodes, _, comparisons, keys, separated⟩ := parse_reads_just_the_nodes
  have first : ∀ s rest, items ≠ .str s :: rest := by
    intro s rest same
    cases (List.cons.inj same).1
  have read : parse (.obj group) = .ok tree := by
    exact (nodes _ _).mpr (.objectGroup rfl (.named .or)
      (.cons (.objectComparison rfl rfl rfl rfl (by decide) rfl) (.cons .empty .nil)))
  refine ⟨comparisons comparison "age" (.str ">") (.arr [.null]) rfl rfl rfl rfl, read, ?_, ?_⟩
  · exact (keys group [("operator", .str "or"), ("filters", .arr items)] tree nofun rfl rfl).mpr
      read
  · exact (separated .or items group tree (Nat.le_refl 2) first rfl (.named .or)).mpr read

end DataGrid.Filter
