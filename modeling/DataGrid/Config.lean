import DataGrid.Execution
import DataGrid.Text.Basic

namespace DataGrid

namespace Config

inductive NumberFault where
  | empty
  | notDigit
  | tooLarge
deriving DecidableEq

def NumberFault.message : NumberFault → String
  | .empty => "cannot parse integer from empty string"
  | .notDigit => "invalid digit found in string"
  | .tooLarge => "number too large to fit in target type"

/-- Digits read on from `n`: the first thing wrong from left to right is told. -/
def readDigits (n : Nat) : List Char → Except NumberFault Nat
  | [] => .ok n
  | c :: s =>
    if !c.isDigit then .error .notDigit
    else
      let next := 10 * n + Text.digitValue c
      if next ≤ 0xFFFFFFFFFFFFFFFF then readDigits next s else .error .tooLarge

/-- A whole number of 64 bits; a plus may stand before its digits. -/
def readNumber (s : String) : Except NumberFault Nat :=
  match s.toList with
  | [] => .error .empty
  | ['+'] => .error .notDigit
  | '+' :: digits => readDigits 0 digits
  | digits => readDigits 0 digits

inductive Fault where
  | unknownDialect (name : String)
  | maxTake (fault : NumberFault)
deriving DecidableEq

def Fault.chain : Fault → List String
  | .unknownDialect name =>
    ["GRIDQUERY_SQL_BACKEND must be postgres or sqlite, got " ++ Text.quoted name]
  | .maxTake fault => ["GRIDQUERY_MAX_TAKE must be a valid u64", fault.message]

end Config

structure Config where
  dialect : Sql.Dialect := .postgres
  table : String := "items"
  maxTake : Option Nat := none
deriving DecidableEq

namespace Config

/-- A cap of zero is no cap. -/
def positive (n : Nat) : Option Nat :=
  if n = 0 then none else some n

def readDialect (name : Option String) : Except Fault Sql.Dialect :=
  match name with
  | none => .ok .postgres
  | some name =>
    match Sql.Dialect.ofName? name with
    | some d => .ok d
    | none => .error (.unknownDialect name)

def readTable (name : Option String) : String :=
  match name with
  | some name => if Text.trim name = "" then "items" else name
  | none => "items"

def readMaxTake (text : Option String) : Except Fault (Option Nat) :=
  match text with
  | none => .ok none
  | some text => (readNumber (Text.trim text)).mapError .maxTake |>.map positive

def ofVariables (lookup : String → Option String) : Except Fault Config := do
  let dialect ← readDialect (lookup "GRIDQUERY_SQL_BACKEND")
  let maxTake ← readMaxTake (lookup "GRIDQUERY_MAX_TAKE")
  return ⟨dialect, readTable (lookup "GRIDQUERY_TABLE"), maxTake⟩

def options (c : Config) : Options :=
  ⟨c.maxTake⟩

end Config

end DataGrid
