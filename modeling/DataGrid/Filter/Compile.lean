import DataGrid.Error
import DataGrid.Filter.Parser
import DataGrid.Query

namespace DataGrid

namespace Filter

def Malformed.toError (m : Malformed) : QueryError :=
  .malformedFilter m.path.text m.fault.reason

def resolve (c : Condition) : Except QueryError Predicate :=
  match Operator.ofName? c.operator with
  | none => .error (.unknownOperator c.operator)
  | some operator =>
    match operator.prepare? c.value with
    | none => .error (.unsupportedValue operator.name c.value.kind)
    | some value => .ok ⟨c.field, operator.comparison, value⟩

section
variable {σ : Type} [Queryable σ]

mutual

def addNode (joiner : Joiner) : Tree Predicate → σ → σ
  | .leaf predicate, q => Queryable.addPredicate q joiner predicate
  | .group own children, q => Queryable.addGroup q joiner (addNodes own children)

def addNodes (joiner : Joiner) : List (Tree Predicate) → σ → σ
  | [], q => q
  | t :: ts, q => addNodes joiner ts (addNode joiner t q)

end

/-- A whole tree is one group, a bare comparison too. -/
def addRoot (joiner : Joiner) (tree : Tree Predicate) (q : σ) : σ :=
  match tree with
  | .leaf _ => Queryable.addGroup q joiner (addNode joiner tree)
  | .group own children => Queryable.addGroup q joiner (addNodes own children)

/-- Adds a filter to the query that is built. Every comparison is resolved first, so one that is
rejected finds the query as it was. -/
def compile (joiner : Joiner) (tree : Tree Condition) : ExceptT QueryError (StateM σ) Unit := do
  let resolved ← MonadExcept.ofExcept (tree.mapM resolve)
  modify (addRoot joiner resolved)

end

end Filter

def Query.filter (q : Query) (joiner : Joiner) (tree : Tree Condition) :
    Except QueryError Query :=
  let (result, q) := (Filter.compile joiner tree).run.run q
  result.map fun _ => q

end DataGrid
