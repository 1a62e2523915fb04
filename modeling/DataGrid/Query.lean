import DataGrid.Clause
import DataGrid.SortKey

namespace DataGrid

/-- What a filter is added to. -/
class Queryable (σ : Type) where
  addPredicate : σ → Joiner → Predicate → σ
  /-- What the body adds is joined as one group. -/
  addGroup : σ → Joiner → (σ → σ) → σ

/-- A query while it is built, the same for every source of rows. -/
structure Query where
  clause : Where := []
  orders : List SortKey := []
  offset : Option Nat := none
  limit : Option Nat := none

namespace Query

def addPredicate (q : Query) (joiner : Joiner) (predicate : Predicate) : Query :=
  { q with clause := q.clause.push joiner predicate }

/-- The predicates that `body` adds become one group. Order and window are set as outside. -/
def addGroup (q : Query) (joiner : Joiner) (body : Query → Query) : Query :=
  let inner := body { q with clause := [] }
  { inner with clause := q.clause.pushGroup joiner inner.clause }

instance : Queryable Query where
  addPredicate := addPredicate
  addGroup := addGroup

def orderBy (q : Query) (key : SortKey) : Query :=
  { q with orders := q.orders ++ [key] }

/-- Later keys break the ties that earlier ones leave. -/
def sortBy (q : Query) (keys : List SortKey) : Query :=
  keys.foldl orderBy q

def skip (q : Query) (offset : Nat) : Query :=
  { q with offset := some offset }

def take (q : Query) (limit : Nat) : Query :=
  { q with limit := some limit }

end Query

end DataGrid
