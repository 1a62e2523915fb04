import DataGrid.Joiner
import DataGrid.Operator

namespace DataGrid

/-- A comparison that is ready to be made. -/
structure Predicate where
  field : String
  comparison : Comparison
  value : Operand

inductive Clause where
  | test (predicate : Predicate)
  | group (entries : List (Joiner × Clause))

/-- Each entry is joined to all that come before it, and the first one to nothing. -/
abbrev Where := List (Joiner × Clause)

def joinNext (join : Joiner → α → α → α) (joiner : Joiner) : Option α → Option α → Option α
  | some before, some next => some (join joiner before next)
  | some before, none => some before
  | none, next => next

mutual

def Clause.fold (leaf : Predicate → α) (join : Joiner → α → α → α) : Clause → Option α
  | .test predicate => some (leaf predicate)
  | .group entries => Clause.foldFrom leaf join none entries

/-- The entries joined from left to right onto what comes before them; an empty group adds
nothing. -/
def Clause.foldFrom (leaf : Predicate → α) (join : Joiner → α → α → α) (before : Option α) :
    List (Joiner × Clause) → Option α
  | [] => before
  | (joiner, clause) :: entries =>
    Clause.foldFrom leaf join (joinNext join joiner before (clause.fold leaf join)) entries

end

mutual

def Clause.predicates : Clause → List Predicate
  | .test predicate => [predicate]
  | .group entries => Clause.predicatesOf entries

def Clause.predicatesOf : List (Joiner × Clause) → List Predicate
  | [] => []
  | (_, clause) :: entries => clause.predicates ++ Clause.predicatesOf entries

end

namespace Where

def fold (leaf : Predicate → α) (join : Joiner → α → α → α) (w : Where) : Option α :=
  Clause.foldFrom leaf join none w

/-- Whether the clause holds under a test of its predicates; an empty one always does. -/
def holds (w : Where) (test : Predicate → Bool) : Bool :=
  (w.fold test Joiner.combine).getD true

def predicates (w : Where) : List Predicate :=
  Clause.predicatesOf w

def push (w : Where) (joiner : Joiner) (predicate : Predicate) : Where :=
  w ++ [(joiner, .test predicate)]

/-- A group without entries adds nothing. -/
def pushGroup (w : Where) (joiner : Joiner) (entries : Where) : Where :=
  if entries.isEmpty then w else w ++ [(joiner, .group entries)]

end Where

end DataGrid
