import DataGrid.Filter.Parser
import DataGrid.Proofs.Result

namespace DataGrid

theorem Joiner.ofSymbol?_symbol (joiner : Joiner) :
    Joiner.ofSymbol? joiner.symbol = some joiner := by
  cases joiner <;> rfl

theorem Joiner.ofSymbol?_eq_some_iff {symbol : String} {joiner : Joiner} :
    Joiner.ofSymbol? symbol = some joiner ↔ symbol = joiner.symbol := by
  constructor
  · intro h
    have same := List.find?_some h
    exact (beq_iff_eq.mp same).symm
  · rintro rfl
    exact joiner.ofSymbol?_symbol

namespace Filter

section
variable {path : Path}

theorem comparison_eq_ok_iff {field operator : Option Json} {value : Json}
    {tree : Tree Condition} :
    comparison path field operator value = .ok tree ↔
      ∃ f o operand, field = some (.str f) ∧ f ≠ "" ∧ operator = some (.str o) ∧
        Operand.ofJson? value = some operand ∧ tree = .leaf ⟨f, o, operand⟩ := by
  unfold comparison
  split
  · next f =>
    split
    · simp_all
    · next named =>
      split
      · next o =>
        split
        · next operand read =>
          constructor
          · rintro ⟨⟩
            exact ⟨f, o, operand, rfl, named, rfl, read, rfl⟩
          · rintro ⟨_, _, _, ⟨⟩, _, ⟨⟩, read', rfl⟩
            rw [read, Option.some_inj] at read'
            rw [read']
        · simp_all
      · simp_all
  · simp_all

theorem arrayComparison_eq_ok_iff {items : List Json} {tree : Tree Condition} :
    arrayComparison path items = .ok tree ↔
      ∃ field operator value, items = [field, operator, value] ∧
        comparison path (some field) (some operator) value = .ok tree := by
  unfold arrayComparison
  split
  · next field operator value =>
    constructor
    · intro h
      exact ⟨field, operator, value, rfl, h⟩
    · rintro ⟨_, _, _, ⟨⟩, h⟩
      exact h
  · next other =>
    simp only [reduceCtorEq, false_iff]
    rintro ⟨field, operator, value, rfl, _⟩
    exact other field operator value rfl

theorem groupJoiner_eq_ok_iff {operator : Option Json} {joiner : Joiner} :
    groupJoiner path operator = .ok joiner ↔
      operator = none ∧ joiner = .and ∨ operator = some (.str joiner.symbol) := by
  unfold groupJoiner
  split
  · simp [eq_comm]
  · next symbol =>
    split
    · next j h =>
      rw [Joiner.ofSymbol?_eq_some_iff] at h
      cases j <;> cases joiner <;> simp_all [Joiner.symbol]
    · next h =>
      simp only [reduceCtorEq, false_and, false_or, false_iff, Option.some.injEq, Json.str.injEq]
      rintro rfl
      simp [Joiner.ofSymbol?_symbol] at h
  · simp_all

theorem objectComparison_eq_ok_iff {object : Json} {tree : Tree Condition} :
    objectComparison path object = .ok tree ↔
      ∃ field value, object.get? "field" = some field ∧ object.get? "value" = some value ∧
        comparison path (some field) (object.get? "operator") value = .ok tree := by
  unfold objectComparison
  split
  · next field value hfield hvalue =>
    constructor
    · intro h
      exact ⟨field, value, hfield, hvalue, h⟩
    · rintro ⟨_, _, hfield', hvalue', h⟩
      rw [hfield, Option.some_inj] at hfield'
      rw [hvalue, Option.some_inj] at hvalue'
      rw [hfield', hvalue']
      exact h
  · simp_all
  · simp_all

/-- What an object holds its children under: one key before the other. -/
def childrenOf? (fields : List (String × Json)) : Option Json :=
  (fields.lookup "filters").or (fields.lookup "children")

theorem childrenUnder_eq (key : String) (path : Path) (fields : List (String × Json)) :
    childrenUnder key path fields =
      (fields.lookup key).map fun value _ => parseChildrenOf key path value := by
  induction fields with
  | nil => rfl
  | cons field fields ih =>
    obtain ⟨name, value⟩ := field
    rw [childrenUnder, List.lookup_cons]
    by_cases h : name = key
    · simp [h]
    · have other : (key == name) = false := by simpa using Ne.symm h
      rw [if_neg h, ih, other]

inductive Holds (fields : List (String × Json)) : String → Json → Prop where
  | filters {value : Json} (found : fields.lookup "filters" = some value) :
      Holds fields "filters" value
  | children {value : Json} (no_filters : fields.lookup "filters" = none)
      (found : fields.lookup "children" = some value) : Holds fields "children" value

theorem Holds.lookup {fields : List (String × Json)} {key : String} {value : Json}
    (h : Holds fields key value) : fields.lookup key = some value := by
  cases h with
  | filters found => exact found
  | children _ found => exact found

theorem exists_holds_of_childrenOf? {fields : List (String × Json)} {value : Json}
    (h : childrenOf? fields = some value) : ∃ key, Holds fields key value := by
  rcases Option.or_eq_some_iff.mp h with filters | ⟨no_filters, children⟩
  · exact ⟨"filters", .filters filters⟩
  · exact ⟨"children", .children no_filters children⟩

theorem parseAt_of_holds {fields : List (String × Json)} {key : String} {value : Json}
    (h : Holds fields key value) (path : Path) :
    parseAt path (.obj fields) =
      groupJoiner path (fields.lookup "operator") >>= fun joiner =>
        (parseChildrenOf key path value).map (.group joiner) := by
  cases h with
  | filters found =>
    rw [parseAt, childrenUnder_eq, childrenUnder_eq, found]
    rfl
  | children no_filters found =>
    rw [parseAt, childrenUnder_eq, childrenUnder_eq, no_filters, found]
    rfl

theorem parseAt_group_eq_ok_iff {fields : List (String × Json)} {value : Json}
    (h : childrenOf? fields = some value) :
    ∃ key, ∀ {path : Path} {tree : Tree Condition}, parseAt path (.obj fields) = .ok tree ↔
      ∃ joiner trees, groupJoiner path (fields.lookup "operator") = .ok joiner ∧
        parseChildrenOf key path value = .ok trees ∧ tree = .group joiner trees := by
  obtain ⟨key, holds⟩ := exists_holds_of_childrenOf? h
  refine ⟨key, fun {path tree} => ?_⟩
  rw [parseAt_of_holds holds]
  simp [bind_eq_ok_iff, map_eq_ok_iff, eq_comm (a := tree)]

theorem parseAt_of_no_children {fields : List (String × Json)} (h : childrenOf? fields = none) :
    parseAt path (.obj fields) = objectComparison path (.obj fields) := by
  obtain ⟨hfilters, hchildren⟩ := Option.or_eq_none_iff.mp h
  rw [parseAt, childrenUnder_eq, childrenUnder_eq, hfilters, hchildren]
  rfl

theorem parseChildren_cons (key : String) (item : Json) (items : List Json) (path : Path)
    (index : Nat) :
    parseChildren key path index (item :: items) =
      parseAt (path ++ [.child key index]) item >>= fun tree =>
        (parseChildren key path (index + 1) items).map (tree :: ·) := by
  rw [parseChildren]
  rfl

theorem parseChildren_cons_eq_ok_iff {key : String} {index : Nat} {item : Json} {items : List Json}
    {trees : List (Tree Condition)} :
    parseChildren key path index (item :: items) = .ok trees ↔
      ∃ tree rest, parseAt (path ++ [.child key index]) item = .ok tree ∧
        parseChildren key path (index + 1) items = .ok rest ∧ trees = tree :: rest := by
  rw [parseChildren_cons]
  simp [bind_eq_ok_iff, map_eq_ok_iff, eq_comm (a := trees)]

theorem parseAt_array {items : List Json} (first : ∀ s rest, items ≠ .str s :: rest)
    (nonempty : items ≠ []) (path : Path) :
    parseAt path (.arr items) = (parseRuns path 0 false items).map ofRuns := by
  rw [parseAt]
  · exact nonempty
  · exact first

theorem parseAt_array_eq_ok_iff {items : List Json} (first : ∀ s rest, items ≠ .str s :: rest)
    (nonempty : items ≠ []) {tree : Tree Condition} :
    parseAt path (.arr items) = .ok tree ↔
      ∃ runs, parseRuns path 0 false items = .ok runs ∧ tree = ofRuns runs := by
  rw [parseAt_array first nonempty]
  simp [map_eq_ok_iff, eq_comm (a := tree)]

theorem parseRuns_nil_eq_ok_iff {index : Nat} {afterNode : Bool} {runs : List Run} :
    parseRuns path index afterNode [] = .ok runs ↔ afterNode = true ∧ runs = [[]] := by
  rw [parseRuns]
  cases afterNode <;> simp [eq_comm]

theorem separator_eq_ok_iff {afterNode : Bool} {symbol : String} {joiner : Joiner} :
    separator path afterNode symbol = .ok joiner ↔
      afterNode = true ∧ symbol = joiner.symbol := by
  rw [← Joiner.ofSymbol?_eq_some_iff]
  unfold separator
  cases Joiner.ofSymbol? symbol <;> cases afterNode <;> simp

/-- The runs from a separator on: only `or` ends the run before it. -/
def runsAfter (joiner : Joiner) (runs : List Run) : List Run :=
  match joiner with
  | .and => runs
  | .or => [] :: runs

theorem parseRuns_text (symbol : String) (items : List Json) (path : Path) (index : Nat)
    (afterNode : Bool) :
    parseRuns path index afterNode (.str symbol :: items) =
      separator (path ++ [.item index]) afterNode symbol >>= fun joiner =>
        (parseRuns path (index + 1) false items).map (runsAfter joiner) := by
  rw [parseRuns]
  rfl

theorem parseRuns_separator_eq_ok_iff {index : Nat} {afterNode : Bool} {symbol : String}
    {items : List Json} {runs : List Run} :
    parseRuns path index afterNode (.str symbol :: items) = .ok runs ↔
      afterNode = true ∧ ∃ (joiner : Joiner) (rest : List Run), symbol = joiner.symbol ∧
        parseRuns path (index + 1) false items = .ok rest ∧ runs = runsAfter joiner rest := by
  rw [parseRuns_text]
  simp only [bind_eq_ok_iff, separator_eq_ok_iff, map_eq_ok_iff, and_assoc, exists_and_left,
    eq_comm (a := runs)]

theorem parseRuns_node {item : Json} (node : ∀ s, item ≠ .str s) (items : List Json) (path : Path)
    (index : Nat) (afterNode : Bool) :
    parseRuns path index afterNode (item :: items) =
      parseAt (path ++ [.item index]) item >>= fun tree =>
        (parseRuns path (index + 1) true items).map (addToRun tree) := by
  rw [parseRuns]
  · rfl
  · exact node

theorem parseRuns_node_eq_ok_iff {index : Nat} {afterNode : Bool} {item : Json} {items : List Json}
    {runs : List Run} (node : ∀ s, item ≠ .str s) :
    parseRuns path index afterNode (item :: items) = .ok runs ↔
      ∃ tree rest, parseAt (path ++ [.item index]) item = .ok tree ∧
        parseRuns path (index + 1) true items = .ok rest ∧ runs = addToRun tree rest := by
  rw [parseRuns_node node]
  simp [bind_eq_ok_iff, map_eq_ok_iff, eq_comm (a := runs)]

end

/-- An `or` between each two nodes leaves each in a run of its own, and an `and` all in one. -/
def runsOf : Joiner → List (Tree Condition) → List Run
  | .and, nodes => [nodes]
  | .or, nodes => nodes.map fun node => [node]

theorem ofRuns_runsOf (joiner : Joiner) {nodes : List (Tree Condition)}
    (several : 2 ≤ nodes.length) : ofRuns (runsOf joiner nodes) = .group joiner nodes := by
  have singles (nodes : List (Tree Condition)) :
      (nodes.map fun node => [node]).map Run.toTree = nodes := by
    rw [List.map_map]
    exact List.map_id _
  match joiner, nodes with
  | .and, nodes => rfl
  | .or, node :: next :: nodes => exact congrArg (Tree.group .or) (singles (node :: next :: nodes))

end Filter

end DataGrid
