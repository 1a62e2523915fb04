import DataGrid.Double.Layout
import DataGrid.Json.Fault

namespace DataGrid

inductive Phase where
  | page
  | count
deriving DecidableEq

def Phase.text : Phase → String
  | .page => "page fetch"
  | .count => "count fetch"

inductive Bound where
  | skip
  | take
deriving DecidableEq

def Bound.text : Bound → String
  | .skip => "skip"
  | .take => "take"

inductive BoundFault where
  | notNumber (text : String)
  | notFinite (number : Double)
  | negative (number : Double)
  | wrongKind (value : Json)

def BoundFault.reason : BoundFault → String
  | .notNumber text => Text.quoted text ++ " is not a number"
  | .notFinite number => number.plainText ++ " is not finite"
  | .negative number => number.plainText ++ " is negative"
  | .wrongKind value => "expected a number, got " ++ value.compact

/-- Why a request has no answer. Every error but one of the source of rows lies in the request. -/
inductive QueryError where
  | invalidRequest (fault : Json.Fault)
  | malformedFilter (path reason : String)
  | unknownOperator (name : String)
  | unsupportedValue (operator kind : String)
  | invalidBound (bound : Bound) (fault : BoundFault)
  | execution (phase : Phase) (source : String)

namespace QueryError

def message : QueryError → String
  | .invalidRequest fault => "invalid request: " ++ fault.message
  | .malformedFilter path reason => "malformed filter node at " ++ path ++ ": " ++ reason
  | .unknownOperator name => "invalid filter operator: " ++ name
  | .unsupportedValue operator kind =>
    "operator " ++ operator ++ " does not accept a " ++ kind ++ " value"
  | .invalidBound bound fault => "invalid " ++ bound.text ++ ": " ++ fault.reason
  | .execution phase source => phase.text ++ " failed: " ++ source

def isClientError : QueryError → Bool
  | .execution _ _ => false
  | _ => true

def source? : QueryError → Option String
  | .invalidRequest fault => some fault.message
  | .execution _ source => some source
  | _ => none

end QueryError

end DataGrid
