import DataGrid.Proofs.Filter.Compile
import DataGrid.Execution

namespace DataGrid

def errorOf? : Except ε α → Option ε
  | .error e => some e
  | .ok _ => none

theorem errorOf?_eq_some_iff {x : Except ε α} {e : ε} : errorOf? x = some e ↔ x = .error e := by
  cases x <;> simp [errorOf?]

namespace Tree
variable {f : α → Except ε β}

mutual

theorem errorOf?_mapM : (t : Tree α) →
    errorOf? (t.mapM f) = t.leaves.findSome? fun a => errorOf? (f a)
  | .leaf a => by
    rw [mapM, leaves, List.findSome?_singleton]
    cases f a <;> rfl
  | .group _ ts => by
    rw [mapM, leaves, ← errorOf?_mapChildrenM ts]
    cases mapChildrenM f ts <;> rfl

theorem errorOf?_mapChildrenM : (ts : List (Tree α)) →
    errorOf? (mapChildrenM f ts) = (leavesAll ts).findSome? fun a => errorOf? (f a)
  | [] => rfl
  | t :: ts => by
    rw [mapChildrenM, leavesAll, List.findSome?_append, ← errorOf?_mapM t,
      ← errorOf?_mapChildrenM ts]
    cases t.mapM f with
    | error e => rfl
    | ok u => cases mapChildrenM f ts <;> rfl

end

end Tree

def Filter.rejection? (filter : Option (Tree Condition)) : Option QueryError :=
  filter.bind fun tree => tree.leaves.findSome? fun c => errorOf? (resolve c)

def Request.rejection? (request : Request) : Option QueryError :=
  (errorOf? (Window.bound .skip request.skip)).or <|
    (errorOf? (Window.bound .take request.take)).or <| Filter.rejection? request.filter

theorem errorOf?_resolve (skip take : Option Json) :
    errorOf? (Window.resolve skip take) =
      (errorOf? (Window.bound .skip skip)).or (errorOf? (Window.bound .take take)) := by
  unfold Window.resolve
  cases Window.bound .skip skip with
  | error e => rfl
  | ok _ => cases Window.bound .take take <;> rfl

theorem Query.errorOf?_filter (q : Query) (joiner : Joiner) (tree : Tree Condition) :
    errorOf? (q.filter joiner tree) =
      tree.leaves.findSome? fun c => errorOf? (Filter.resolve c) := by
  rw [← tree.errorOf?_mapM]
  cases resolves : tree.mapM Filter.resolve with
  | error e => rw [Query.filter_of_error resolves]; rfl
  | ok resolved => rw [Query.filter_of_ok resolves]; rfl

theorem errorOf?_filtered (filter : Option (Tree Condition)) :
    errorOf? (filtered filter) = Filter.rejection? filter := by
  cases filter with
  | none => rfl
  | some tree => exact Query.errorOf?_filter {} .and tree

/-- Making ready fails just when the request is rejected. The count has the filter of the page, so
it has no error of its own. -/
theorem errorOf?_prepare (options : Options) (request : Request) :
    errorOf? (prepare options request) = request.rejection? := by
  rw [Request.rejection?, ← Option.or_assoc, ← errorOf?_resolve, ← errorOf?_filtered]
  unfold prepare
  cases Window.resolve request.skip request.take with
  | error e => rfl
  | ok window =>
    cases filtered request.filter with
    | error e => rfl
    | ok kept => cases request.requireTotalCount <;> rfl

theorem isClientError_of_errorOf?_bound {name : Bound} {raw : Option Json} {e : QueryError}
    (h : errorOf? (Window.bound name raw) = some e) : e.isClientError = true := by
  rw [errorOf?_eq_some_iff, Window.bound] at h
  cases hread : Window.readBound raw with
  | error fault =>
    rw [hread] at h
    cases h
    rfl
  | ok _ =>
    rw [hread] at h
    cases h

theorem isClientError_of_errorOf?_resolve {c : Condition} {e : QueryError}
    (h : errorOf? (Filter.resolve c) = some e) : e.isClientError = true := by
  unfold Filter.resolve at h
  split at h
  · cases h
    rfl
  · split at h
    · cases h
      rfl
    · cases h

theorem Request.isClientError_of_rejection? {request : Request} {e : QueryError}
    (h : request.rejection? = some e) : e.isClientError = true := by
  rw [rejection?, Option.or_eq_some_iff, Option.or_eq_some_iff] at h
  rcases h with hskip | ⟨_, htake | ⟨_, hfilter⟩⟩
  · exact isClientError_of_errorOf?_bound hskip
  · exact isClientError_of_errorOf?_bound htake
  · obtain ⟨tree, _, htree⟩ := Option.bind_eq_some_iff.mp hfilter
    obtain ⟨c, _, hc⟩ := List.exists_of_findSome?_eq_some htree
    exact isClientError_of_errorOf?_resolve hc

end DataGrid
