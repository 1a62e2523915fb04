import DataGrid.Envelope
import DataGrid.Memory.Table
import DataGrid.Request
import DataGrid.Sql.Select
import DataGrid.Window

namespace DataGrid

structure Options where
  /-- The most rows a page may have. -/
  maxTake : Option Nat := none

/-- The queries that answer a request. -/
structure Prepared where
  page : Query
  count : Option Query
  window : Option Window

def filtered (filter : Option (Tree Condition)) : Except QueryError Query :=
  match filter with
  | none => .ok {}
  | some tree => Query.filter {} .and tree

def prepare (options : Options) (request : Request) : Except QueryError Prepared := do
  let window := Window.cap options.maxTake (← Window.resolve request.skip request.take)
  let kept ← filtered request.filter
  let sorted := kept.sortBy (request.sort.getD [])
  let page := match window with
    | none => sorted
    | some w => sorted.window w
  let count ← if request.requireTotalCount then some <$> filtered request.filter else pure none
  return ⟨page, count, window⟩

/-- Where rows come from. A failure is told in words. -/
structure Source (m : Type → Type) where
  page : Query → m (Except String (List Json))
  count : Query → m (Except String Nat)

/-- A request that is rejected asks nothing of the source. The page comes before the count. -/
def execute [Monad m] (source : Source m) (options : Options) (request : Request) :
    m (Except QueryError Envelope) := do
  match prepare options request with
  | .error e => return .error e
  | .ok prepared =>
    match ← source.page prepared.page with
    | .error e => return .error (.execution .page e)
    | .ok rows =>
      match prepared.count with
      | none => return .ok (.ofRows rows)
      | some count =>
        match ← source.count count with
        | .error e => return .error (.execution .count e)
        | .ok total => return .ok ((Envelope.ofRows rows).withTotalCount total)

def Memory.source (rows : List Json) : Source Id where
  page q := .ok (page rows q)
  count q := .ok (count rows q)

structure Sql.Executor (m : Type → Type) where
  rows : Statement → m (Except String (List Json))
  count : Statement → m (Except String Nat)

def Sql.source (d : Dialect) (table : String) (executor : Executor m) : Source m where
  page q := executor.rows (statement d (selectPage table q))
  count q := executor.count (statement d (selectCount table q))

/-- The executor of a table that no database is connected to. -/
def Sql.unconnected : Executor Id where
  rows s := .error ("no database connection to run: " ++ s.sql)
  count s := .error ("no database connection to run: " ++ s.sql)

end DataGrid
