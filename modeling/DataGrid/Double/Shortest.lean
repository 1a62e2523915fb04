import DataGrid.Double.Basic

namespace DataGrid.Double

/-- The decimal `digits × 10 ^ place`. -/
structure Decimal where
  digits : Nat
  place : Int
deriving DecidableEq

inductive Tie where
  | even
  | up
deriving DecidableEq

/-- The reals that round to one count of units, with ends in quarter units. -/
structure Span where
  low : Nat
  high : Nat
  closed : Bool

/-- Below a power of two the neighbours lie twice as close as above it. -/
def Span.around (units : Nat) : Span :=
  let gap := Nat.pow 2 (gridOf units)
  let below := if 1 < gap ∧ units = Nat.pow 2 52 * gap then gap else 2 * gap
  ⟨4 * units - below, 4 * units + 2 * gap, units / gap % 2 == 0⟩

def Span.contains (s : Span) (d : Decimal) : Bool :=
  let value := d.digits * Nat.pow 10 d.place.toNat * (4 * one)
  let low := s.low * Nat.pow 10 (-d.place).toNat
  let high := s.high * Nat.pow 10 (-d.place).toNat
  if s.closed then low ≤ value && value ≤ high else low < value && value < high

/-- The decimal next to `units` on the grid of one place, if either neighbour rounds to it. -/
def shortestAt (tie : Tie) (units : Nat) (place : Int) : Option Decimal :=
  let num := units * Nat.pow 10 (-place).toNat
  let den := one * Nat.pow 10 place.toNat
  let below : Decimal := ⟨num / den, place⟩
  let above : Decimal := ⟨num / den + 1, place⟩
  let span := Span.around units
  match span.contains below, span.contains above with
  | true, false => some below
  | false, true => some above
  | false, false => none
  | true, true =>
    match compare (2 * (num % den)) den with
    | .lt => some below
    | .gt => some above
    | .eq =>
      match tie with
      | .up => some above
      | .even => some (if below.digits % 2 = 0 then below else above)

def magnitude (units : Nat) : Int :=
  (Nat.toDigits 10 (units * Nat.pow 10 400 / one)).length - 401

def Decimal.dropZero (d : Decimal) : Decimal :=
  if d.digits % 10 = 0 then ⟨d.digits / 10, d.place + 1⟩ else d

/-- Seventeen digits always suffice. -/
def shortest (tie : Tie) (units : Nat) : Decimal :=
  if units = 0 then ⟨0, 0⟩
  else
    let top := magnitude units
    match (List.range 17).findSome? fun (n : Nat) => shortestAt tie units (top - n) with
    | some d => d.dropZero
    | none => ⟨0, 0⟩

end DataGrid.Double
