namespace DataGrid

inductive Joiner where
  | and
  | or
deriving DecidableEq, Inhabited

namespace Joiner

def symbol : Joiner → String
  | .and => "and"
  | .or => "or"

def ofSymbol? (s : String) : Option Joiner :=
  [Joiner.and, .or].find? (·.symbol == s)

def combine : Joiner → Bool → Bool → Bool
  | .and => (· && ·)
  | .or => (· || ·)

end Joiner

end DataGrid
