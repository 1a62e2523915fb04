import DataGrid.Proofs.Filter.Grammar
import DataGrid.Proofs.Filter.Tree
import Mathlib.Data.List.Forall2

namespace DataGrid

namespace Joiner

def holdsFor : Joiner → List Bool → Bool
  | .and, outcomes => outcomes.all id
  | .or, outcomes => outcomes.any id

/-- What is said by the outcomes that there are; without any there is none. -/
def verdict (joiner : Joiner) (outcomes : List (Option Bool)) : Option Bool :=
  match outcomes.filterMap id with
  | [] => none
  | said => some (joiner.holdsFor said)

@[simp] theorem verdict_nil (joiner : Joiner) : joiner.verdict [] = none :=
  rfl

theorem combine_holdsFor (joiner : Joiner) (a b : Bool) (said : List Bool) :
    joiner.combine a (joiner.holdsFor (b :: said)) = joiner.holdsFor (a :: b :: said) := by
  cases joiner <;> rfl

theorem verdict_cons (joiner : Joiner) (outcome : Option Bool) (outcomes : List (Option Bool)) :
    joiner.verdict (outcome :: outcomes) =
      Tree.joinOutcome joiner outcome (joiner.verdict outcomes) := by
  cases outcome with
  | none => rfl
  | some a =>
    have said : (some a :: outcomes).filterMap id = a :: outcomes.filterMap id := rfl
    rw [verdict, verdict, said]
    cases outcomes.filterMap id with
    | nil => cases joiner <;> cases a <;> rfl
    | cons b rest => exact congrArg some (joiner.combine_holdsFor a b rest).symm

@[simp] theorem verdict_singleton (joiner : Joiner) (outcome : Option Bool) :
    joiner.verdict [outcome] = outcome := by
  rw [verdict_cons, verdict_nil, Tree.joinOutcome_none_right]

end Joiner

namespace Tree

section
variable {α β : Type}

theorem outcomes_eq_verdict (test : α → Bool) (joiner : Joiner) (ts : List (Tree α)) :
    outcomes test joiner ts = joiner.verdict (ts.map (outcome test)) := by
  induction ts with
  | nil => rfl
  | cons t ts ih => rw [outcomes, List.map_cons, Joiner.verdict_cons, ih]

theorem leavesAll_eq_flatMap (ts : List (Tree α)) : leavesAll ts = ts.flatMap leaves := by
  induction ts with
  | nil => rfl
  | cons t ts ih => rw [leavesAll, List.flatMap_cons, ih]

mutual

def map (f : α → β) : Tree α → Tree β
  | .leaf a => .leaf (f a)
  | .group joiner children => .group joiner (mapChildren f children)

def mapChildren (f : α → β) : List (Tree α) → List (Tree β)
  | [] => []
  | t :: ts => t.map f :: mapChildren f ts

end

theorem mapChildren_eq_map (f : α → β) (ts : List (Tree α)) :
    mapChildren f ts = ts.map (map f) := by
  induction ts with
  | nil => rfl
  | cons t ts ih => rw [mapChildren, List.map_cons, ih]

mutual

theorem map_id : (t : Tree α) → t.map id = t
  | .leaf _ => rfl
  | .group joiner ts => congrArg (Tree.group joiner) (mapChildren_id ts)

theorem mapChildren_id : (ts : List (Tree α)) → mapChildren id ts = ts
  | [] => rfl
  | t :: ts => congrArg₂ List.cons t.map_id (mapChildren_id ts)

end

theorem exists_children_of_map_eq_group {f : α → β} {t : Tree α} {joiner : Joiner}
    {us : List (Tree β)} (h : t.map f = .group joiner us) :
    ∃ ts, t = .group joiner ts ∧ ts.map (map f) = us := by
  cases t with
  | leaf a => cases h
  | group j ts =>
    rw [map, mapChildren_eq_map] at h
    cases h
    exact ⟨ts, rfl, rfl⟩

/-- A tree that stands for its parts, joined: it says what they say, and its leaves are theirs. -/
structure Stands (test : α → Bool) (joiner : Joiner) (t : Tree α) (parts : List (Tree α)) :
    Prop where
  outcome_eq : t.outcome test = joiner.verdict (parts.map (outcome test))
  leaves_eq : t.leaves = parts.flatMap leaves

theorem stands_group (test : α → Bool) (joiner : Joiner) (ts : List (Tree α)) :
    Stands test joiner (.group joiner ts) ts :=
  ⟨outcomes_eq_verdict test joiner ts, leavesAll_eq_flatMap ts⟩

theorem stands_self (test : α → Bool) (joiner : Joiner) (t : Tree α) :
    Stands test joiner t [t] :=
  ⟨(joiner.verdict_singleton _).symm, by rw [List.flatMap_cons, List.flatMap_nil, List.append_nil]⟩

end

end Tree

namespace Filter

def isSeparator (joiner : Joiner) : Json → Bool
  | .str s => s == joiner.symbol
  | _ => false

/-- The nodes between one `or` and the next. -/
def nodeRuns (items : List Json) : List (List Json) :=
  (items.splitOnP (isSeparator .or)).map (List.filter fun item => !isSeparator .and item)

theorem nodeRuns_ne_nil (items : List Json) : nodeRuns items ≠ [] := by
  rw [nodeRuns, Ne, List.map_eq_nil_iff]
  exact List.splitOnP_ne_nil _ _

theorem nodeRuns_or (items : List Json) :
    nodeRuns (.str Joiner.or.symbol :: items) = [] :: nodeRuns items := by
  rw [nodeRuns, List.splitOnP_cons_eq_if_modifyHead]
  rfl

/-- Any item but an `or` goes to the first run, unless it is an `and`. -/
theorem nodeRuns_cons {item : Json} (other : isSeparator .or item = false) (items : List Json) :
    nodeRuns (item :: items) =
      (nodeRuns items).modifyHead fun run =>
        if isSeparator .and item then run else item :: run := by
  rw [nodeRuns, nodeRuns, List.splitOnP_cons_eq_if_modifyHead, if_neg (by simp [other])]
  obtain ⟨run, runs, h⟩ := List.exists_cons_of_ne_nil (List.splitOnP_ne_nil (isSeparator .or) items)
  rw [h, List.modifyHead_cons, List.map_cons, List.map_cons, List.modifyHead_cons, List.filter_cons]
  cases isSeparator .and item <;> rfl

theorem isSeparator_of_node {item : Json} (node : ∀ s, item ≠ .str s) (joiner : Joiner) :
    isSeparator joiner item = false := by
  cases item with
  | str s => exact absurd rfl (node s)
  | null | bool | num | arr | obj => rfl

theorem exists_nodeRuns_eq_cons (items : List Json) : ∃ run runs, nodeRuns items = run :: runs :=
  List.exists_cons_of_ne_nil (nodeRuns_ne_nil items)

theorem nodeRuns_separator (joiner : Joiner) (items : List Json) :
    nodeRuns (.str joiner.symbol :: items) =
      match joiner with
      | .and => nodeRuns items
      | .or => [] :: nodeRuns items := by
  cases joiner with
  | or => exact nodeRuns_or items
  | and =>
    obtain ⟨run, runs, h⟩ := exists_nodeRuns_eq_cons items
    rw [nodeRuns_cons rfl, h]
    rfl

/-- Each node of a run is read from the item in its place. -/
abbrev ReadAs (runs : List (List Json)) : List Run → Prop :=
  List.Forall₂ (List.Forall₂ fun item node => parse item = .ok node) runs

def itemLeaves (item : Json) : List Condition :=
  match parse item with
  | .ok node => node.leaves
  | .error _ => []

section
variable {path : Path}

theorem flatten_addToRun (node : Tree Condition) (runs : List Run) :
    (addToRun node runs).flatten = node :: runs.flatten := by
  cases runs <;> rfl

theorem flatten_runsAfter (joiner : Joiner) (runs : List Run) :
    (runsAfter joiner runs).flatten = runs.flatten := by
  cases joiner <;> rfl

/-- The runs of the parser are those of the items, with each node read, and no leaf is lost. -/
theorem runs_of_parseRuns {items : List Json} {index : Nat} {afterNode : Bool} {runs : List Run}
    (h : parseRuns path index afterNode items = .ok runs) :
    ReadAs (nodeRuns items) runs ∧
      runs.flatten.flatMap Tree.leaves = items.flatMap itemLeaves := by
  induction items generalizing index afterNode runs with
  | nil =>
    obtain ⟨_, rfl⟩ := parseRuns_nil_eq_ok_iff.mp h
    exact ⟨.cons .nil .nil, rfl⟩
  | cons item items ih =>
    by_cases text : ∃ s, item = .str s
    · obtain ⟨s, rfl⟩ := text
      obtain ⟨_, joiner, after, rfl, hafter, rfl⟩ := parseRuns_separator_eq_ok_iff.mp h
      obtain ⟨reads, leaves⟩ := ih hafter
      rw [flatten_runsAfter, leaves, nodeRuns_separator]
      refine ⟨?_, rfl⟩
      cases joiner with
      | and => exact reads
      | or => exact .cons .nil reads
    · have node : ∀ s, item ≠ .str s := by simpa using text
      obtain ⟨tree, after, htree, hafter, rfl⟩ := (parseRuns_node_eq_ok_iff node).mp h
      obtain ⟨reads, leaves⟩ := ih hafter
      have read : parse item = .ok tree := parseAt_eq_ok_iff_parse.mp htree
      constructor
      · rw [nodeRuns_cons (isSeparator_of_node node .or), isSeparator_of_node node .and]
        obtain ⟨run, runs, h⟩ := exists_nodeRuns_eq_cons items
        rw [h] at reads ⊢
        cases reads with
        | cons first rest => exact .cons (.cons read first) rest
      · rw [flatten_addToRun, List.flatMap_cons, List.flatMap_cons, leaves, itemLeaves, read]

theorem exists_runs_of_parseAt {items : List Json} {tree : Tree Condition}
    (first : ∀ s rest, items ≠ .str s :: rest) (h : parseAt path (.arr items) = .ok tree) :
    ∃ runs, ReadAs (nodeRuns items) runs ∧
      runs.flatten.flatMap Tree.leaves = items.flatMap itemLeaves ∧ tree = ofRuns runs := by
  by_cases nonempty : items = []
  · subst nonempty
    cases h
    exact ⟨[[]], .cons .nil .nil, rfl, rfl⟩
  · obtain ⟨runs, hruns, rfl⟩ := (parseAt_array_eq_ok_iff first nonempty).mp h
    obtain ⟨reads, leaves⟩ := runs_of_parseRuns hruns
    exact ⟨runs, reads, leaves, rfl⟩

end

section
variable {α : Type} {condition : α → Condition} (test : α → Bool)

theorem exists_parts_of_run {run : Run} {t : Tree α} (h : t.map condition = run.toTree) :
    ∃ parts, parts.map (Tree.map condition) = run ∧ t.Stands test .and parts := by
  match run, h with
  | [node], h => exact ⟨[t], congrArg ([·]) h, t.stands_self test .and⟩
  | [], h | _ :: _ :: _, h =>
    obtain ⟨ts, rfl, same⟩ := Tree.exists_children_of_map_eq_group h
    exact ⟨ts, same, Tree.stands_group test .and ts⟩

theorem exists_parts_of_runs {runs : List Run} {ts : List (Tree α)}
    (h : ts.map (Tree.map condition) = runs.map Run.toTree) :
    ∃ parts : List (List (Tree α)), parts.map (List.map (Tree.map condition)) = runs ∧
      ts.map (Tree.outcome test) =
        parts.map (fun run => Joiner.and.verdict (run.map (Tree.outcome test))) ∧
      ts.flatMap Tree.leaves = parts.flatten.flatMap Tree.leaves := by
  induction ts generalizing runs with
  | nil =>
    rw [List.map_nil, eq_comm, List.map_eq_nil_iff] at h
    exact ⟨[], h.symm, rfl, rfl⟩
  | cons t ts ih =>
    cases runs with
    | nil => cases h
    | cons run runs =>
      obtain ⟨head, tail⟩ := List.cons.inj h
      obtain ⟨part, rfl, stands⟩ := exists_parts_of_run test head
      obtain ⟨parts, rfl, outcomes, leaves⟩ := ih tail
      refine ⟨part :: parts, rfl, ?_, ?_⟩
      · rw [List.map_cons, List.map_cons, stands.outcome_eq, outcomes]
      · rw [List.flatMap_cons, stands.leaves_eq, leaves, List.flatten_cons, List.flatMap_append]

/-- The tree of some runs says the `or` of what they say. -/
theorem exists_parts_of_ofRuns {runs : List Run} {t : Tree α}
    (h : t.map condition = ofRuns runs) :
    ∃ parts : List (List (Tree α)), parts.map (List.map (Tree.map condition)) = runs ∧
      t.outcome test = Joiner.or.verdict
        (parts.map fun run => Joiner.and.verdict (run.map (Tree.outcome test))) ∧
      t.leaves = parts.flatten.flatMap Tree.leaves := by
  match runs, h with
  | [run], h =>
    obtain ⟨ts, rfl, rfl⟩ := Tree.exists_children_of_map_eq_group h
    have stands := Tree.stands_group test .and ts
    refine ⟨[ts], rfl, ?_, ?_⟩
    · rw [List.map_cons, List.map_nil, Joiner.verdict_singleton, stands.outcome_eq]
    · rw [List.flatten_cons, List.flatten_nil, List.append_nil, stands.leaves_eq]
  | [], h | _ :: _ :: _, h =>
    obtain ⟨ts, rfl, same⟩ := Tree.exists_children_of_map_eq_group h
    obtain ⟨parts, hparts, outcomes, leaves⟩ := exists_parts_of_runs test same
    have stands := Tree.stands_group test .or ts
    refine ⟨parts, hparts, ?_, stands.leaves_eq.trans leaves⟩
    rw [stands.outcome_eq, outcomes]

theorem leaves_ofRuns (runs : List Run) :
    (ofRuns runs).leaves = runs.flatten.flatMap Tree.leaves := by
  obtain ⟨parts, same, _, leaves⟩ := exists_parts_of_ofRuns (fun _ => true) (ofRuns runs).map_id
  have map_id : Tree.map (id : Condition → Condition) = id := funext Tree.map_id
  rw [map_id, List.map_id_fun, List.map_id_fun, id_eq] at same
  rw [leaves, same]

end

/-- An array that does not start with a text has the precedence of SQL. The leaves of its tree are
those of its items, in their order. However the leaves are judged, each where it stands, the tree
says the `or`, over the runs of nodes between one `or` and the next, of the `and` of what the nodes
of a run say; nodes and runs that say nothing are left out. -/
theorem array_group_binds_and_first {path : Path} {items : List Json} {tree : Tree Condition}
    (first : ∀ s rest, items ≠ .str s :: rest) (read : parseAt path (.arr items) = .ok tree) :
    tree.leaves = items.flatMap itemLeaves ∧
    ∀ (α : Type) (condition : α → Condition) (test : α → Bool) (judged : Tree α),
      judged.map condition = tree →
      ∃ runs : List (List (Tree α)),
        List.Forall₂ (List.Forall₂ fun item node => parse item = .ok (node.map condition))
          (nodeRuns items) runs ∧
        judged.leaves = runs.flatten.flatMap Tree.leaves ∧
        judged.outcome test = Joiner.or.verdict
          (runs.map fun run => Joiner.and.verdict (run.map (Tree.outcome test))) := by
  obtain ⟨runs, reads, leaves, rfl⟩ := exists_runs_of_parseAt first read
  refine ⟨?_, fun α condition test judged same => ?_⟩
  · rw [leaves_ofRuns, leaves]
  · obtain ⟨parts, rfl, outcome, leaves⟩ := exists_parts_of_ofRuns test same
    refine ⟨parts, ?_, leaves, outcome⟩
    simpa only [ReadAs, List.forall₂_map_right_iff] using reads

/-- One comparison that stands in two runs and is judged in each apart, and groups that say
nothing. -/
theorem comparison_in_two_runs :
    let item (field : String) : Json := .arr [.str field, .str "=", .null]
    let leaf (field : String) (holds : Bool) : Tree (Condition × Bool) :=
      .leaf (⟨field, "=", .null⟩, holds)
    let items := [item "a", .str "or", item "b", .arr [], .str "and", item "a", .str "or", .arr []]
    ∃ runs : List (List (Tree (Condition × Bool))),
      List.Forall₂ (List.Forall₂ fun item node => parse item = .ok (node.map Prod.fst))
        [[item "a"], [item "b", .arr [], item "a"], [.arr []]] runs ∧
      runs.flatten.flatMap Tree.leaves =
        (leaf "a" false).leaves ++ (leaf "b" true).leaves ++ (leaf "a" true).leaves ∧
      parse (.arr items) = .ok (.group .or [(leaf "a" false).map Prod.fst,
        .group .and [(leaf "b" true).map Prod.fst, .group .and [], (leaf "a" true).map Prod.fst],
        .group .and []]) ∧
      Joiner.or.verdict
        (runs.map fun run => Joiner.and.verdict (run.map (Tree.outcome Prod.snd))) =
          some true := by
  intro item leaf items
  have first : ∀ s rest, items ≠ .str s :: rest := by
    intro s rest same
    cases (List.cons.inj same).1
  have read : parse (.arr items) = .ok (.group .or [(leaf "a" false).map Prod.fst,
      .group .and [(leaf "b" true).map Prod.fst, .group .and [], (leaf "a" true).map Prod.fst],
      .group .and []]) := rfl
  obtain ⟨_, judged⟩ := array_group_binds_and_first first read
  obtain ⟨runs, reads, leaves, outcome⟩ := judged _ Prod.fst Prod.snd (.group .or [leaf "a" false,
    .group .and [leaf "b" true, .group .and [], leaf "a" true], .group .and []]) rfl
  exact ⟨runs, reads, leaves.symm, read, outcome.symm⟩

end Filter

end DataGrid
