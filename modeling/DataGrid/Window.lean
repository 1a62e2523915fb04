import DataGrid.Double.Numeral
import DataGrid.Error
import DataGrid.Query
import DataGrid.Text.Basic

namespace DataGrid

/-- The rows after the first `skip`, and at most `take` of them. -/
structure Window where
  skip : Nat
  take : Option Nat
deriving DecidableEq

namespace Window

/-- Bounds stop at the largest whole number of 64 bits. -/
def maxBound : Nat :=
  0xFFFFFFFFFFFFFFFF

/-- The whole part of a number, which must not be below zero. -/
def wholeBound (x : Double) : Except BoundFault Nat :=
  match x with
  | .finite v =>
    if v.negative && 0 < v.whole then .error (.negative x) else .ok (min v.whole maxBound)
  | _ => .error (.notFinite x)

/-- A bound as a client gives it; null and a blank text give none. -/
def readBound : Option Json → Except BoundFault (Option Nat)
  | none | some .null => .ok none
  | some (.num n) =>
    match n.toNat? with
    | some bound => .ok (some bound)
    | none => some <$> wholeBound n.toDouble
  | some (.str s) =>
    if Text.trim s = "" then .ok none
    else
      match Double.parse? (Text.trim s) with
      | some x => some <$> wholeBound x
      | none => .error (.notNumber s)
  | some other => .error (.wrongKind other)

def bound (name : Bound) (raw : Option Json) : Except QueryError (Option Nat) :=
  (readBound raw).mapError (.invalidBound name)

/-- A bound of zero bounds nothing. -/
def ofBounds (skip take : Nat) : Option Window :=
  if skip = 0 ∧ take = 0 then none
  else some ⟨skip, if take = 0 then none else some take⟩

def resolve (skip take : Option Json) : Except QueryError (Option Window) := do
  let skip ← bound .skip skip
  let take ← bound .take take
  return ofBounds (skip.getD 0) (take.getD 0)

def cap (max : Option Nat) (window : Option Window) : Option Window :=
  match max, window with
  | none, w => w
  | some m, none => some ⟨0, some m⟩
  | some m, some ⟨skip, some take⟩ => some ⟨skip, some (min take m)⟩
  | some m, some ⟨skip, none⟩ => some ⟨skip, some m⟩

end Window

def Query.window (q : Query) (w : Window) : Query :=
  match w.take with
  | none => q.skip w.skip
  | some take => (q.skip w.skip).take take

end DataGrid
