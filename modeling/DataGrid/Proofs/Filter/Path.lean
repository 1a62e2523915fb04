import DataGrid.Proofs.Filter.Parsing

namespace DataGrid.Filter

/-- A fault as it is told from further up. -/
def Malformed.below (outer : Path) (m : Malformed) : Malformed :=
  { m with path := outer ++ m.path }

section
variable (outer : Path)

theorem comparison_below (path : Path) (field operator : Option Json) (value : Json) :
    comparison (outer ++ path) field operator value =
      (comparison path field operator value).mapError (.below outer) := by
  unfold comparison
  cases field with
  | none => rfl
  | some field =>
    cases field with
    | str f =>
      dsimp only
      split
      · rfl
      · cases operator with
        | none => rfl
        | some operator =>
          cases operator with
          | str o => cases Operand.ofJson? value <;> rfl
          | _ => rfl
    | _ => rfl

theorem arrayComparison_below (path : Path) (items : List Json) :
    arrayComparison (outer ++ path) items =
      (arrayComparison path items).mapError (.below outer) := by
  unfold arrayComparison
  split
  · exact comparison_below outer path _ _ _
  · rfl

theorem objectComparison_below (path : Path) (object : Json) :
    objectComparison (outer ++ path) object =
      (objectComparison path object).mapError (.below outer) := by
  unfold objectComparison
  split
  · exact comparison_below outer path _ _ _
  · rfl
  · rfl

theorem groupJoiner_below (path : Path) (operator : Option Json) :
    groupJoiner (outer ++ path) operator = (groupJoiner path operator).mapError (.below outer) := by
  unfold groupJoiner
  split
  · rfl
  · split <;> rfl
  · rfl

theorem separator_below (path : Path) (afterNode : Bool) (symbol : String) :
    separator (outer ++ path) afterNode symbol =
      (separator path afterNode symbol).mapError (.below outer) := by
  unfold separator
  split
  · rfl
  · split <;> rfl

mutual

theorem parseAt_below : (value : Json) → ∀ path,
    parseAt (outer ++ path) value = (parseAt path value).mapError (.below outer)
  | .null, _ | .bool _, _ | .num _, _ | .str _, _ => rfl
  | .arr items, path => by
    by_cases text : ∃ s rest, items = .str s :: rest
    · obtain ⟨s, rest, rfl⟩ := text
      rw [parseAt, parseAt]
      exact arrayComparison_below outer path _
    by_cases empty : items = []
    · subst empty
      rfl
    · have first : ∀ s rest, items ≠ .str s :: rest := by simpa using text
      rw [parseAt_array first empty, parseAt_array first empty, parseRuns_below items path 0 false,
        mapError_map]
  | .obj fields, path => by
    cases hchildren : childrenOf? fields with
    | none =>
      rw [parseAt_of_no_children hchildren, parseAt_of_no_children hchildren]
      exact objectComparison_below outer path _
    | some value =>
      obtain ⟨key, holds⟩ := exists_holds_of_childrenOf? hchildren
      rw [parseAt_of_holds holds, parseAt_of_holds holds, mapError_bind, groupJoiner_below,
        parseChildrenOf_below_of_lookup fields holds.lookup key path]
      simp only [mapError_map]

theorem parseRuns_below : (items : List Json) → ∀ path index afterNode,
    parseRuns (outer ++ path) index afterNode items =
      (parseRuns path index afterNode items).mapError (.below outer)
  | [], _, _, afterNode => by cases afterNode <;> rfl
  | item :: items, path, index, afterNode => by
    by_cases text : ∃ s, item = .str s
    · obtain ⟨s, rfl⟩ := text
      rw [parseRuns_text, parseRuns_text, mapError_bind, List.append_assoc, separator_below,
        parseRuns_below items path (index + 1) false]
      simp only [mapError_map]
    · have node : ∀ s, item ≠ .str s := by simpa using text
      rw [parseRuns_node node, parseRuns_node node, mapError_bind, List.append_assoc,
        parseAt_below item _, parseRuns_below items path (index + 1) true]
      simp only [mapError_map]

theorem parseChildrenOf_below_of_lookup : (fields : List (String × Json)) →
    ∀ {name : String} {value : Json}, fields.lookup name = some value → ∀ key path,
    parseChildrenOf key (outer ++ path) value =
      (parseChildrenOf key path value).mapError (.below outer)
  | (n, v) :: fields, name, _, found, key, path => by
    rw [List.lookup_cons] at found
    split at found
    · cases found
      exact parseChildrenOf_below v key path
    · exact parseChildrenOf_below_of_lookup fields found key path

theorem parseChildrenOf_below : (value : Json) → ∀ key path,
    parseChildrenOf key (outer ++ path) value =
      (parseChildrenOf key path value).mapError (.below outer)
  | .arr items, key, path => parseChildren_below items key path 0
  | .null, _, _ | .bool _, _, _ | .num _, _, _ | .str _, _, _ | .obj _, _, _ => rfl

theorem parseChildren_below : (items : List Json) → ∀ key path index,
    parseChildren key (outer ++ path) index items =
      (parseChildren key path index items).mapError (.below outer)
  | [], _, _, _ => rfl
  | item :: items, key, path, index => by
    rw [parseChildren_cons, parseChildren_cons, mapError_bind, List.append_assoc,
      parseAt_below item _, parseChildren_below items key path (index + 1)]
    simp only [mapError_map]

end

end

theorem parseAt_step_eq_error_iff {step own : Step} {path : Path} {fault : Fault} {item : Json} :
    parseAt [own] item = .error ⟨step :: path, fault⟩ ↔
      step = own ∧ parse item = .error ⟨path, fault⟩ := by
  rw [← List.append_nil [own], parseAt_below, mapError_eq_error_iff, parse]
  constructor
  · rintro ⟨cause, read, same⟩
    cases same
    exact ⟨rfl, read⟩
  · rintro ⟨rfl, read⟩
    exact ⟨_, read, rfl⟩

end DataGrid.Filter
