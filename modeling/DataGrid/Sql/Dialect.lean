import DataGrid.Text.Basic

namespace DataGrid.Sql

inductive Dialect where
  | postgres
  | sqlite
deriving DecidableEq

namespace Dialect

def name : Dialect → String
  | .postgres => "postgres"
  | .sqlite => "sqlite"

def ofName? (name : String) : Option Dialect :=
  match String.ofList ((Text.trimChars name.toList).map Char.toLower) with
  | "postgres" | "postgresql" | "pg" => some .postgres
  | "sqlite" => some .sqlite
  | _ => none

end Dialect

end DataGrid.Sql
