import DataGrid.Sql.Condition

namespace DataGrid.Sql

inductive Truth where
  | false
  | unknown
  | true
deriving DecidableEq

namespace Truth

protected def and : Truth → Truth → Truth
  | .false, _ | _, .false => .false
  | .true, .true => .true
  | _, _ => .unknown

protected def or : Truth → Truth → Truth
  | .true, _ | _, .true => .true
  | .false, .false => .false
  | _, _ => .unknown

def join : Joiner → Truth → Truth → Truth
  | .and => Truth.and
  | .or => Truth.or

def isTrue (t : Truth) : Bool :=
  t == .true

/-- To the question whether a condition is true the third value is no different from false. -/
theorem isTrue_join (joiner : Joiner) (a b : Truth) :
    (join joiner a b).isTrue = joiner.combine a.isTrue b.isTrue := by
  cases joiner <;> cases a <;> cases b <;> rfl

end Truth

def Condition.value (truth : Predicate → Truth) : Condition → Truth
  | .atom predicate => truth predicate
  | .join joiner left right => .join joiner (left.value truth) (right.value truth)

end DataGrid.Sql
