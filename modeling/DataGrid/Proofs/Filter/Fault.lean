import DataGrid.Proofs.Filter.Grammar
import DataGrid.Proofs.Filter.Path
import DataGrid.Request

namespace DataGrid

namespace Filter

/-- An item in its place: a node stands anywhere, a separator after a node. The flags tell whether
a node stands before the item, and whether the item is one. -/
inductive InPlace : Bool → Json → Bool → Prop where
  | node {afterNode : Bool} {item : Json} {tree : Tree Condition} (read : parse item = .ok tree) :
      InPlace afterNode item true
  | separator (joiner : Joiner) : InPlace true (.str joiner.symbol) false

inductive AllInPlace : Bool → List Json → Bool → Prop where
  | nil {afterNode : Bool} : AllInPlace afterNode [] afterNode
  | cons {afterNode next last : Bool} {item : Json} {items : List Json}
      (place : InPlace afterNode item next) (rest : AllInPlace next items last) :
      AllInPlace afterNode (item :: items) last

inductive Misplaced : Bool → String → Fault → Prop where
  | unknown {afterNode : Bool} {symbol : String}
      (unknown : ∀ joiner : Joiner, symbol ≠ joiner.symbol) :
      Misplaced afterNode symbol (.unknownSeparator symbol)
  | stray {symbol : String} {joiner : Joiner} (known : symbol = joiner.symbol) :
      Misplaced false symbol (.straySeparator symbol)

/-- An item that is not read where it stands, with the fault and the way to it from the item. -/
inductive Refused : Bool → Json → Path → Fault → Prop where
  | node {afterNode : Bool} {item : Json} {path : Path} {fault : Fault}
      (node : ∀ s, item ≠ .str s) (faulty : parse item = .error ⟨path, fault⟩) :
      Refused afterNode item path fault
  | text {afterNode : Bool} {symbol : String} {fault : Fault}
      (misplaced : Misplaced afterNode symbol fault) : Refused afterNode (.str symbol) [] fault

section
variable {afterNode next : Bool} {symbol : String} {item : Json} {path : Path} {fault : Fault}

theorem separator_eq_error_iff {told : Path} :
    separator path afterNode symbol = .error ⟨told, fault⟩ ↔
      told = path ∧ Misplaced afterNode symbol fault := by
  unfold separator
  cases known : Joiner.ofSymbol? symbol with
  | none =>
    have unknown : ∀ joiner : Joiner, symbol ≠ joiner.symbol := by
      intro joiner same
      rw [Joiner.ofSymbol?_eq_some_iff.mpr same] at known
      cases known
    constructor
    · rintro ⟨⟩
      exact ⟨rfl, .unknown unknown⟩
    · rintro ⟨rfl, misplaced⟩
      cases misplaced with
      | unknown => rfl
      | stray known => exact absurd known (unknown _)
  | some joiner =>
    have known : symbol = joiner.symbol := Joiner.ofSymbol?_eq_some_iff.mp known
    cases afterNode with
    | true =>
      refine iff_of_false nofun ?_
      rintro ⟨_, misplaced⟩
      cases misplaced with
      | unknown unknown => exact unknown joiner known
    | false =>
      constructor
      · rintro ⟨⟩
        exact ⟨rfl, .stray known⟩
      · rintro ⟨rfl, misplaced⟩
        cases misplaced with
        | unknown unknown => exact absurd known (unknown joiner)
        | stray => rfl

theorem refused_text_iff :
    Refused afterNode (.str symbol) path fault ↔ path = [] ∧ Misplaced afterNode symbol fault := by
  constructor
  · intro h
    cases h with
    | node node _ => exact absurd rfl (node symbol)
    | text misplaced => exact ⟨rfl, misplaced⟩
  · rintro ⟨rfl, misplaced⟩
    exact .text misplaced

theorem refused_node_iff (node : ∀ s, item ≠ .str s) :
    Refused afterNode item path fault ↔ parse item = .error ⟨path, fault⟩ := by
  constructor
  · intro h
    cases h with
    | node _ faulty => exact faulty
    | text _ => exact absurd rfl (node _)
  · exact .node node

theorem inPlace_text_iff :
    InPlace afterNode (.str symbol) next ↔
      next = false ∧ ∃ joiner : Joiner, afterNode = true ∧ symbol = joiner.symbol := by
  constructor
  · intro h
    cases h with
    | node read => cases read
    | separator joiner => exact ⟨rfl, joiner, rfl, rfl⟩
  · rintro ⟨rfl, joiner, rfl, rfl⟩
    exact .separator joiner

theorem inPlace_node_iff (node : ∀ s, item ≠ .str s) :
    InPlace afterNode item next ↔ next = true ∧ ∃ tree, parse item = .ok tree := by
  constructor
  · intro h
    cases h with
    | node read => exact ⟨rfl, _, read⟩
    | separator joiner => exact absurd rfl (node joiner.symbol)
  · rintro ⟨rfl, tree, read⟩
    exact .node read

end

section
variable {afterNode : Bool} {index : Nat} {items : List Json} {step : Step} {path : Path}
  {fault : Fault}

/-- Reading an array stops at an item, or the item is in its place and it stops further on. -/
theorem parseRuns_cons_eq_error_iff {item : Json} :
    parseRuns [] index afterNode (item :: items) = .error ⟨step :: path, fault⟩ ↔
      step = .item index ∧ Refused afterNode item path fault ∨
      ∃ next, InPlace afterNode item next ∧
        parseRuns [] (index + 1) next items = .error ⟨step :: path, fault⟩ := by
  by_cases text : ∃ symbol, item = .str symbol
  · obtain ⟨symbol, rfl⟩ := text
    rw [parseRuns_text, bind_eq_error_iff, List.nil_append, separator_eq_error_iff,
      refused_text_iff, List.cons.injEq, and_assoc]
    simp only [separator_eq_ok_iff, inPlace_text_iff, map_eq_error_iff]
    simp [exists_and_right]
  · have node : ∀ s, item ≠ .str s := by simpa using text
    rw [parseRuns_node node, bind_eq_error_iff, List.nil_append, parseAt_step_eq_error_iff,
      refused_node_iff node]
    simp only [parseAt_eq_ok_iff_parse, inPlace_node_iff node, map_eq_error_iff]
    simp [exists_and_right]

theorem parseRuns_eq_error_iff :
    parseRuns [] index afterNode items = .error ⟨step :: path, fault⟩ ↔
      ∃ before item after next, items = before ++ item :: after ∧
        AllInPlace afterNode before next ∧ Refused next item path fault ∧
        step = .item (index + before.length) := by
  induction items generalizing index afterNode with
  | nil =>
    refine iff_of_false ?_ ?_
    · cases afterNode <;> exact nofun
    · rintro ⟨before, item, after, next, h, _⟩
      exact List.append_ne_nil_of_right_ne_nil before (List.cons_ne_nil item after) h.symm
  | cons item items ih =>
    rw [parseRuns_cons_eq_error_iff]
    constructor
    · rintro (⟨rfl, refused⟩ | ⟨next, place, h⟩)
      · exact ⟨[], item, items, afterNode, rfl, .nil, refused, rfl⟩
      · obtain ⟨before, other, after, last, rfl, rest, refused, rfl⟩ := ih.mp h
        refine ⟨item :: before, other, after, last, rfl, .cons place rest, refused, ?_⟩
        rw [List.length_cons, Nat.add_right_comm, Nat.add_assoc]
    · rintro ⟨before, other, after, last, same, places, refused, rfl⟩
      cases places with
      | nil =>
        cases same
        exact .inl ⟨rfl, refused⟩
      | @cons _ next _ _ before place rest =>
        cases same
        refine .inr ⟨next, place, ih.mpr ⟨before, other, after, last, rfl, rest, refused, ?_⟩⟩
        rw [List.length_cons, Nat.add_right_comm, Nat.add_assoc]

theorem parseChildren_eq_error_iff {key : String} :
    parseChildren key [] index items = .error ⟨step :: path, fault⟩ ↔
      ∃ before item after, items = before ++ item :: after ∧
        (∀ earlier ∈ before, ∃ tree, parse earlier = .ok tree) ∧
        parse item = .error ⟨path, fault⟩ ∧ step = .child key (index + before.length) := by
  induction items generalizing index with
  | nil => simp [parseChildren]
  | cons item items ih =>
    rw [parseChildren_cons, bind_eq_error_iff, List.nil_append, parseAt_step_eq_error_iff]
    simp only [parseAt_eq_ok_iff_parse, map_eq_error_iff]
    constructor
    · rintro (⟨rfl, faulty⟩ | ⟨tree, read, h⟩)
      · exact ⟨[], item, items, rfl, List.forall_mem_nil _, faulty, rfl⟩
      · obtain ⟨before, other, after, rfl, nodes, faulty, rfl⟩ := ih.mp h
        refine ⟨item :: before, other, after, rfl, ?_, faulty, ?_⟩
        · exact List.forall_mem_cons.mpr ⟨⟨tree, read⟩, nodes⟩
        · rw [List.length_cons, Nat.add_right_comm, Nat.add_assoc]
    · rintro ⟨before, other, after, same, nodes, faulty, rfl⟩
      cases before with
      | nil =>
        cases same
        exact .inl ⟨rfl, faulty⟩
      | cons first before =>
        cases same
        obtain ⟨⟨tree, read⟩, nodes⟩ := List.forall_mem_cons.mp nodes
        refine .inr ⟨tree, read, ih.mpr ⟨before, other, after, rfl, nodes, faulty, ?_⟩⟩
        rw [List.length_cons, Nat.add_right_comm, Nat.add_assoc]

end

section
variable {path : Path} {m : Malformed}

theorem path_of_comparison {field operator : Option Json} {value : Json}
    (h : comparison path field operator value = .error m) : m.path = path := by
  unfold comparison at h
  repeat' split at h
  all_goals cases h
  all_goals rfl

theorem path_of_arrayComparison {items : List Json} (h : arrayComparison path items = .error m) :
    m.path = path := by
  unfold arrayComparison at h
  split at h
  · exact path_of_comparison h
  · cases h
    rfl

theorem path_of_objectComparison {object : Json} (h : objectComparison path object = .error m) :
    m.path = path := by
  unfold objectComparison at h
  split at h
  · exact path_of_comparison h
  · cases h
    rfl
  · cases h
    rfl

theorem path_of_groupJoiner {operator : Option Json} (h : groupJoiner path operator = .error m) :
    m.path = path := by
  unfold groupJoiner at h
  split at h
  · cases h
  · split at h
    · cases h
    · cases h
      rfl
  · cases h
    rfl

end

section
variable {step : Step} {path : Path} {fault : Fault}

theorem parse_arr_eq_error_iff {items : List Json} :
    parse (.arr items) = .error ⟨step :: path, fault⟩ ↔
      (∀ s rest, items ≠ .str s :: rest) ∧ ∃ before item after afterNode,
        items = before ++ item :: after ∧ AllInPlace false before afterNode ∧
        Refused afterNode item path fault ∧ step = .item before.length := by
  by_cases text : ∃ s rest, items = .str s :: rest
  · obtain ⟨s, rest, rfl⟩ := text
    refine iff_of_false (fun h => ?_) fun h => h.1 s rest rfl
    rw [parse, parseAt] at h
    exact List.cons_ne_nil _ _ (path_of_arrayComparison h)
  have first : ∀ s rest, items ≠ .str s :: rest := by simpa using text
  rw [and_iff_right first]
  by_cases empty : items = []
  · subst empty
    refine iff_of_false (fun h => ?_) ?_
    · cases h
    · rintro ⟨before, item, after, _, h, _⟩
      exact List.append_ne_nil_of_right_ne_nil before (List.cons_ne_nil item after) h.symm
  · rw [parse, parseAt_array first empty, map_eq_error_iff, parseRuns_eq_error_iff]
    simp only [Nat.zero_add]

theorem parse_obj_eq_error_iff {fields : List (String × Json)} :
    parse (.obj fields) = .error ⟨step :: path, fault⟩ ↔
      ∃ key before item after joiner, Holds fields key (.arr (before ++ item :: after)) ∧
        Joins (fields.lookup "operator") joiner ∧
        (∀ earlier ∈ before, ∃ tree, parse earlier = .ok tree) ∧
        parse item = .error ⟨path, fault⟩ ∧ step = .child key before.length := by
  constructor
  · intro h
    cases hchildren : childrenOf? fields with
    | none =>
      rw [parse, parseAt_of_no_children hchildren] at h
      exact absurd (path_of_objectComparison h) (List.cons_ne_nil _ _)
    | some value =>
      obtain ⟨key, holds⟩ := exists_holds_of_childrenOf? hchildren
      rw [parse, parseAt_of_holds holds, bind_eq_error_iff] at h
      rcases h with h | ⟨joiner, joins, h⟩
      · exact absurd (path_of_groupJoiner h) (List.cons_ne_nil _ _)
      rw [map_eq_error_iff] at h
      cases value with
      | arr items =>
        obtain ⟨before, item, after, rfl, nodes, faulty, rfl⟩ := parseChildren_eq_error_iff.mp h
        exact ⟨key, before, item, after, joiner, holds, groupJoiner_eq_ok_iff_joins.mp joins,
          nodes, faulty, by rw [Nat.zero_add]⟩
      | _ => cases h
  · rintro ⟨key, before, item, after, joiner, holds, joins, nodes, faulty, rfl⟩
    have children : parseChildrenOf key [] (.arr (before ++ item :: after)) =
        .error ⟨.child key before.length :: path, fault⟩ :=
      parseChildren_eq_error_iff.mpr
        ⟨before, item, after, rfl, nodes, faulty, by rw [Nat.zero_add]⟩
    rw [parse, parseAt_of_holds holds, groupJoiner_eq_ok_iff_joins.mpr joins, children]
    rfl

end

/-- The first fault of a filter in the order of its items, and the way to it. It is a node's own, or
it is a text in an array that is out of place. In each group that the way leads through, all items
before the one that it goes on with are read or in their places. -/
inductive FirstFault : Json → Path → Fault → Prop where
  | own {value : Json} {fault : Fault} (faulty : parse value = .error ⟨[], fault⟩) :
      FirstFault value [] fault
  | text {before after : List Json} {symbol : String} {afterNode : Bool} {fault : Fault}
      (group : ∀ s rest, before ++ .str symbol :: after ≠ .str s :: rest)
      (places : AllInPlace false before afterNode) (misplaced : Misplaced afterNode symbol fault) :
      FirstFault (.arr (before ++ .str symbol :: after)) [.item before.length] fault
  | item {before after : List Json} {item : Json} {afterNode : Bool} {path : Path} {fault : Fault}
      (group : ∀ s rest, before ++ item :: after ≠ .str s :: rest)
      (places : AllInPlace false before afterNode) (node : ∀ s, item ≠ .str s)
      (within : FirstFault item path fault) :
      FirstFault (.arr (before ++ item :: after)) (.item before.length :: path) fault
  | child {fields : List (String × Json)} {key : String} {before after : List Json} {item : Json}
      {joiner : Joiner} {path : Path} {fault : Fault}
      (holds : Holds fields key (.arr (before ++ item :: after)))
      (joins : Joins (fields.lookup "operator") joiner)
      (nodes : ∀ earlier ∈ before, ∃ tree, parse earlier = .ok tree)
      (within : FirstFault item path fault) :
      FirstFault (.obj fields) (.child key before.length :: path) fault

section
variable {value : Json} {path : Path} {fault : Fault}

/-- The induction is on the path that is told, so it needs no more of a value than one step down. -/
theorem firstFault_of_parse (h : parse value = .error ⟨path, fault⟩) :
    FirstFault value path fault := by
  induction path generalizing value with
  | nil => exact .own h
  | cons step path ih =>
    cases value with
    | arr items =>
      obtain ⟨group, before, item, after, afterNode, rfl, places, refused, rfl⟩ :=
        parse_arr_eq_error_iff.mp h
      cases refused with
      | node node faulty => exact .item group places node (ih faulty)
      | text misplaced => exact .text group places misplaced
    | obj fields =>
      obtain ⟨key, before, item, after, joiner, holds, joins, nodes, faulty, rfl⟩ :=
        parse_obj_eq_error_iff.mp h
      exact .child holds joins nodes (ih faulty)
    | _ => cases h

theorem parse_of_firstFault (h : FirstFault value path fault) :
    parse value = .error ⟨path, fault⟩ := by
  induction h with
  | own faulty => exact faulty
  | text group places misplaced =>
    exact parse_arr_eq_error_iff.mpr ⟨group, _, _, _, _, rfl, places, .text misplaced, rfl⟩
  | item group places node _ faulty =>
    exact parse_arr_eq_error_iff.mpr ⟨group, _, _, _, _, rfl, places, .node node faulty, rfl⟩
  | child holds joins nodes _ faulty =>
    exact parse_obj_eq_error_iff.mpr ⟨_, _, _, _, _, holds, joins, nodes, faulty, rfl⟩

end

def Step.into? : Step → Json → Option Json
  | .item index, .arr items => items[index]?
  | .child key index, .obj fields =>
    match fields.lookup key with
    | some (.arr items) => items[index]?
    | _ => none
  | _, _ => none

def Path.follow? : Path → Json → Option Json
  | [], value => some value
  | step :: path, value => (step.into? value).bind (follow? path)

end Filter

namespace Request

open DataGrid.Filter

theorem parseFilter_eq_error_iff {value : Json} {e : QueryError} :
    parseFilter value = .error e ↔
      ∃ path fault, FirstFault value path fault ∧
        e = .malformedFilter (Path.text path) fault.reason := by
  rw [parseFilter, mapError_eq_error_iff]
  constructor
  · rintro ⟨⟨path, fault⟩, read, rfl⟩
    exact ⟨path, fault, firstFault_of_parse read, rfl⟩
  · rintro ⟨path, fault, first, rfl⟩
    exact ⟨⟨path, fault⟩, parse_of_firstFault first, rfl⟩

/-- At the end of the way is a node that has the fault by itself, or a text that is out of place. -/
theorem exists_at_end_of_firstFault {value : Json} {path : Path} {fault : Fault}
    (h : FirstFault value path fault) :
    ∃ found, path.follow? value = some found ∧
      (parseFilter found = .error (.malformedFilter "filter" fault.reason) ∨
        ∃ symbol, found = .str symbol ∧
          (fault = .unknownSeparator symbol ∨ fault = .straySeparator symbol)) := by
  induction h with
  | @own value fault faulty =>
    refine ⟨value, rfl, .inl ?_⟩
    rw [parseFilter, faulty]
    rfl
  | @text before after symbol _ _ _ _ misplaced =>
    refine ⟨.str symbol, ?_, .inr ⟨symbol, rfl, ?_⟩⟩
    · simp [Path.follow?, Step.into?]
    · cases misplaced with
      | unknown => exact .inl rfl
      | stray => exact .inr rfl
  | item _ _ _ _ ih =>
    obtain ⟨found, reached, told⟩ := ih
    refine ⟨found, ?_, told⟩
    simpa [Path.follow?, Step.into?] using reached
  | child holds _ _ _ ih =>
    obtain ⟨found, reached, told⟩ := ih
    refine ⟨found, ?_, told⟩
    simpa [Path.follow?, Step.into?, holds.lookup] using reached

/-- A filter that is not read is told to be malformed at its first fault, and nothing else goes
wrong. The path that is told leads to a value in the filter, either one that fails as a filter of
its own for the same reason, or a text in an array that is no separator or has no node before
it. -/
theorem malformed_filter_points_at_first_fault (value : Json) (e : QueryError) :
    parseFilter value = .error e ↔
      ∃ path fault found, e = .malformedFilter (Path.text path) fault.reason ∧
        FirstFault value path fault ∧ path.follow? value = some found ∧
        (parseFilter found = .error (.malformedFilter "filter" fault.reason) ∨
          ∃ symbol, found = .str symbol ∧
            (fault = .unknownSeparator symbol ∨ fault = .straySeparator symbol)) := by
  rw [parseFilter_eq_error_iff]
  constructor
  · rintro ⟨path, fault, first, rfl⟩
    obtain ⟨found, reached, told⟩ := exists_at_end_of_firstFault first
    exact ⟨path, fault, found, rfl, first, reached, told⟩
  · rintro ⟨path, fault, _, rfl, first, _⟩
    exact ⟨path, fault, first, rfl⟩

example : Path.text [.item 2, .child "filters" 0] = "filter[2].filters[0]" := by decide +kernel

end Request

end DataGrid
