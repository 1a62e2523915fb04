import DataGrid.Cli.Run

open DataGrid

/-- The words of a text by which variables may be named. -/
def namesIn (isPart : Char → Bool) (text : String) : List String :=
  text.toList.splitBy (fun a b => isPart a == isPart b) |>.map String.ofList

def readVariables (text : String) : IO Variables := do
  let names := ["GRIDQUERY_SQL_BACKEND", "GRIDQUERY_TABLE", "GRIDQUERY_MAX_TAKE"] ++
    namesIn Char.isAlphanum text ++ namesIn Variables.isNameChar text
  names.foldlM (fun vars name => do
    match ← IO.getEnv name with
    | some value => return vars.setNew name value
    | none => return vars) []

def reasonText : IO.Error → String
  | .noFileOrDirectory .. => "No such file or directory (os error 2)"
  | .permissionDenied .. => "Permission denied (os error 13)"
  | e => toString e

def readText (path : String) : IO (Except String String) :=
  try
    return .ok (← IO.FS.readFile path)
  catch e =>
    return .error (reasonText e)

/-- The variable file of this directory or of the nearest one above it that has one. -/
def findVariableFile (above : String) : Nat → IO (Option String)
  | 0 => return none
  | levels + 1 => do
    match ← readText (above ++ ".env") with
    | .ok text => return some text
    | .error _ => findVariableFile (above ++ "../") levels

def main (args : List String) : IO UInt32 := do
  let file ← findVariableFile "" 64
  let host : Cli.Host IO := {
    environment := ← readVariables (file.getD "")
    variableFile := file
    fileText := readText
    inputText := do (← IO.getStdin).readToEnd }
  let report ← Cli.run host args
  IO.print report.output
  IO.eprint report.errors
  return report.exitCode.toUInt32
