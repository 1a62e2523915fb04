import DataGrid.Json.Basic
import DataGrid.Text.Basic

namespace DataGrid.Fixture

def record (id : Int64) : Json :=
  .ofFields [("id", .ofInt64 id)]

def withField (name : String) (value : Json) : Json → Json
  | .obj fields => .obj (Json.insertField name value fields)
  | other => other

def recordName (id : Nat) : String :=
  let digits := toString id
  "record-" ++ (if digits.length < 2 then "0" ++ digits else digits)

/-- Records 1 to `n`, each with a name and one of five buckets. -/
def numbered (n : Nat) : List Json :=
  (List.range n).map fun i =>
    record (.ofNat (i + 1)) |> withField "name" (.str (recordName (i + 1)))
      |> withField "bucket" (.ofNat ((i + 1) % 5))

/-- Four people aged 20, 35, 40 and 50. -/
def people : List Json :=
  [(1, 20), (2, 35), (3, 40), (4, 50)].map fun (id, age) =>
    record id |> withField "age" (.ofInt64 age)

def ids (rows : List Json) : List Int64 :=
  rows.filterMap fun row =>
    match row.get? "id" with
    | some (.num n) => n.toInt64?
    | _ => none

end DataGrid.Fixture
