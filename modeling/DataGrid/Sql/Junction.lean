import DataGrid.Clause

namespace DataGrid.Sql

inductive Entry where
  | atom (predicate : Predicate)
  | nested (joiner : Joiner) (first : Entry) (rest : List Entry)

/-- Entries that are all joined by one joiner; there is at least one. -/
structure Junction where
  joiner : Joiner
  first : Entry
  rest : List Entry

namespace Junction

/-- A junction inside another; one with a single entry stands for that entry. -/
def entry : Junction → Entry
  | ⟨_, first, []⟩ => first
  | ⟨joiner, first, next :: rest⟩ => .nested joiner first (next :: rest)

def add (j next : Junction) : Junction :=
  { j with rest := j.rest ++ [next.entry] }

/-- One more junction after those gathered so far, which are held with the joiner they have. A first
one has no joiner yet, and counts as joined by `and`. -/
def gather (joiner : Joiner) :
    Option (Joiner × Junction) → Option Junction → Option (Joiner × Junction)
  | before, none => before
  | none, some next => some (.and, ⟨.and, next.entry, []⟩)
  | some (kind, before), some next =>
    if kind = joiner then some (kind, before.add next)
    else some (joiner, ⟨joiner, before.entry, [next.entry]⟩)

mutual

def ofClause? : Clause → Option Junction
  | .test predicate => some ⟨.and, .atom predicate, []⟩
  | .group entries => (gatherAll none entries).map (·.2)

def gatherAll (before : Option (Joiner × Junction)) :
    List (Joiner × Clause) → Option (Joiner × Junction)
  | [] => before
  | (joiner, clause) :: entries => gatherAll (gather joiner before (ofClause? clause)) entries

end

def ofWhere? (w : Where) : Option Junction :=
  (gatherAll none w).map (·.2)

end Junction

end DataGrid.Sql
