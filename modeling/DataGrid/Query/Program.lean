import DataGrid.Filter.Compile
import DataGrid.Window

namespace DataGrid.Query

inductive Rejection where
  | query (error : QueryError)
  | decoding (fault : Json.Fault)

inductive Step where
  | test (joiner : Joiner) (predicate : Predicate)
  | group (joiner : Joiner) (steps : List Step)
  | orderBy (key : SortKey)
  | skip (offset : Nat)
  | take (limit : Nat)
  | filter (joiner : Joiner) (tree : Tree Condition)
  | sort (keys : List SortKey)
  | window (window : Option Window)
  | rejected (reason : Rejection)

instance : Inhabited Step :=
  ⟨.window none⟩

mutual

/-- What a step does to a query. One that is rejected does not keep the steps after it from their
work. -/
def step : Step → Query → Query
  | .test joiner predicate, q => q.addPredicate joiner predicate
  | .group joiner steps, q => q.addGroup joiner (run steps)
  | .orderBy key, q => q.orderBy key
  | .skip offset, q => q.skip offset
  | .take limit, q => q.take limit
  | .filter joiner tree, q => ((Filter.compile joiner tree).run.run q).2
  | .sort keys, q => q.sortBy keys
  | .window window, q =>
    match window with
    | some w => q.window w
    | none => q
  | .rejected _, q => q

def run : List Step → Query → Query
  | [], q => q
  | s :: steps, q => run steps (step s q)

end

mutual

def Step.rejection? : Step → Option Rejection
  | .group _ steps => rejectionIn? steps
  | .filter _ tree =>
    match tree.mapM Filter.resolve with
    | .error e => some (.query e)
    | .ok _ => none
  | .rejected reason => some reason
  | _ => none

def Step.rejectionIn? : List Step → Option Rejection
  | [] => none
  | s :: steps => s.rejection?.or (rejectionIn? steps)

end

end DataGrid.Query
