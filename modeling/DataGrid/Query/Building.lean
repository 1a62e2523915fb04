import DataGrid.Query.Program

namespace DataGrid

/-- The clause that is being built: that of the innermost open group. -/
structure ClauseBuilder where
  current : Where := []

namespace ClauseBuilder

def push (b : ClauseBuilder) (joiner : Joiner) (predicate : Predicate) : ClauseBuilder :=
  ⟨b.current.push joiner predicate⟩

/-- The clause around a group that is opened, to be put aside, and the builder of the group. -/
def opened (b : ClauseBuilder) : Where × ClauseBuilder :=
  (b.current, {})

/-- The clause that was put aside comes back, with what was built since as one group. -/
def closed (b : ClauseBuilder) (outer : Where) (joiner : Joiner) : ClauseBuilder :=
  ⟨outer.pushGroup joiner b.current⟩

end ClauseBuilder

/-- A query in the hands of a source of rows. Sources differ in how they hold the number of rows to
skip: a table in memory starts with none to skip, a database with no number at all. -/
structure Building (ω : Type) where
  builder : ClauseBuilder := {}
  orders : List SortKey := []
  offset : ω
  limit : Option Nat := none

namespace Building

def addPredicate (b : Building ω) (joiner : Joiner) (predicate : Predicate) : Building ω :=
  { b with builder := b.builder.push joiner predicate }

/-- The body of a group works on the query itself, all of it but the clause put aside. -/
def addGroup (b : Building ω) (joiner : Joiner) (body : Building ω → Building ω) : Building ω :=
  let (outer, inner) := b.builder.opened
  let built := body { b with builder := inner }
  { built with builder := built.builder.closed outer joiner }

instance : Queryable (Building ω) where
  addPredicate := addPredicate
  addGroup := addGroup

def orderBy (b : Building ω) (key : SortKey) : Building ω :=
  { b with orders := b.orders ++ [key] }

def sortBy (b : Building ω) (keys : List SortKey) : Building ω :=
  keys.foldl orderBy b

def take (b : Building ω) (limit : Nat) : Building ω :=
  { b with limit := some limit }

section
variable (held : Nat → ω)

def skip (b : Building ω) (offset : Nat) : Building ω :=
  { b with offset := held offset }

def window (b : Building ω) (w : Window) : Building ω :=
  match w.take with
  | none => b.skip held w.skip
  | some take => (b.skip held w.skip).take take

mutual

def step : Query.Step → Building ω → Building ω
  | .test joiner predicate, b => b.addPredicate joiner predicate
  | .group joiner steps, b => b.addGroup joiner (run steps)
  | .orderBy key, b => b.orderBy key
  | .skip offset, b => b.skip held offset
  | .take limit, b => b.take limit
  | .filter joiner tree, b => ((Filter.compile joiner tree).run.run b).2
  | .sort keys, b => b.sortBy keys
  | .window window, b =>
    match window with
    | some w => b.window held w
    | none => b
  | .rejected _, b => b

def run : List Query.Step → Building ω → Building ω
  | [], b => b
  | s :: steps, b => run steps (step s b)

end

end

end Building

def Memory.building (steps : List Query.Step) : Building Nat :=
  Building.run id steps { offset := 0 }

def Sql.building (steps : List Query.Step) : Building (Option Nat) :=
  Building.run some steps { offset := none }

end DataGrid
