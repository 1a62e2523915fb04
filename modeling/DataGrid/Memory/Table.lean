import DataGrid.Memory.Evaluate
import DataGrid.Query

namespace DataGrid.Memory

def kept (rows : List Json) (q : Query) : List Json :=
  rows.filter fun row => q.clause.holds (evaluate · row)

def window (q : Query) (rows : List Json) : List Json :=
  let rows := rows.drop (q.offset.getD 0)
  match q.limit with
  | none => rows
  | some limit => rows.take limit

def page (rows : List Json) (q : Query) : List Json :=
  window q (sortRows q.orders (kept rows q))

/-- Order and window play no part in the count. -/
def count (rows : List Json) (q : Query) : Nat :=
  (kept rows q).length

end DataGrid.Memory
