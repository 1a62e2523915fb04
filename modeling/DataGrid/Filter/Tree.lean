import DataGrid.Joiner

namespace DataGrid

/-- Conditions grouped to any depth; each group joins its children with its own joiner. -/
inductive Tree (α : Type) where
  | leaf (value : α)
  | group (joiner : Joiner) (children : List (Tree α))

namespace Tree

instance : Inhabited (Tree α) :=
  ⟨.group .and []⟩

mutual

def depth : Tree α → Nat
  | .leaf _ => 1
  | .group _ children => 1 + depths children

def depths : List (Tree α) → Nat
  | [] => 0
  | t :: ts => max t.depth (depths ts)

end

mutual

def leaves : Tree α → List α
  | .leaf a => [a]
  | .group _ children => leavesAll children

def leavesAll : List (Tree α) → List α
  | [] => []
  | t :: ts => t.leaves ++ leavesAll ts

end

def joinOutcome (joiner : Joiner) : Option Bool → Option Bool → Option Bool
  | some a, some b => some (joiner.combine a b)
  | some a, none => some a
  | none, b => b

mutual

/-- What a tree says under a test of its leaves. A group without an outcome among its children has
none itself. -/
def outcome (test : α → Bool) : Tree α → Option Bool
  | .leaf a => some (test a)
  | .group joiner children => outcomes test joiner children

def outcomes (test : α → Bool) (joiner : Joiner) : List (Tree α) → Option Bool
  | [] => none
  | t :: ts => joinOutcome joiner (t.outcome test) (outcomes test joiner ts)

end

mutual

/-- A tree with every leaf replaced, or the error of the first leaf that has no replacement. -/
def mapM (f : α → Except ε β) : Tree α → Except ε (Tree β)
  | .leaf a => (f a).map .leaf
  | .group joiner children => (mapChildrenM f children).map (.group joiner)

def mapChildrenM (f : α → Except ε β) : List (Tree α) → Except ε (List (Tree β))
  | [] => .ok []
  | t :: ts => do
    let t ← t.mapM f
    let ts ← mapChildrenM f ts
    return t :: ts

end

end Tree

end DataGrid
