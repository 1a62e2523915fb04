import DataGrid.Cli.Args
import DataGrid.Cli.Report
import DataGrid.Variables.File

namespace DataGrid.Cli

/-- What surrounds a command line. A file that is not read has a text that says why. -/
structure Host (m : Type → Type) where
  environment : Variables
  variableFile : Option String
  fileText : String → m (Except String String)
  inputText : m String

def versionLine : String :=
  "gridquery-kernel 0.1.0\n"

def usageText : String :=
  "Usage: gridquery run --data <FILE> [--request <FILE>] [--max-take <ROWS>] [--pretty]\n" ++
    "       gridquery sql [--backend <NAME>] [--table <NAME>] [--request <FILE>]\n" ++
    "                     [--max-take <ROWS>]\n"

def Refusal.report : Refusal → Report
  | .help => .success usageText
  | .version => .success versionLine
  | .usage => ⟨2, "", usageText⟩

def Host.config (host : Host m) : Except Config.Fault Config :=
  let vars := match host.variableFile with
    | none => host.environment
    | some text => host.environment.setFrom text
  Config.ofVariables vars.get?

/-- A cap of the command line stands in for the configured one; a cap of zero takes it away. -/
def optionsOf (config : Config) (maxTake : Option Nat) : Options :=
  match maxTake with
  | none => config.options
  | some n => ⟨Config.positive n⟩

def rejected (what : String) (e : QueryError) : Report :=
  .failure what (causesOf e)

def readNamed [Monad m] (host : Host m) (what path : String) : ExceptT Report m String := do
  match ← host.fileText path with
  | .ok text => return text
  | .error reason => throw (.failure ("failed to read " ++ what ++ " from " ++ path) [reason])

def readRequest [Monad m] (host : Host m) (path : Option String) : ExceptT Report m Request := do
  let text ← match path with
    | none => host.inputText
    | some path => readNamed host "request" path
  match Request.ofText text with
  | .ok request => return request
  | .error e => throw (rejected "invalid grid request" e)

def readRows [Monad m] (host : Host m) (path : String) : ExceptT Report m (List Json) := do
  let text ← readNamed host "records" path
  match Json.decodeText (fun s n => n.readList Json.Node.read s) text with
  | .ok rows => return rows
  | .error fault => throw (.failure (path ++ " must hold a JSON array of records") [fault.message])

def printEnvelope (pretty : Bool) (e : Envelope) : String :=
  (if pretty then e.toJson.pretty else e.toJson.compact) ++ "\n"

def answerRun (options : Options) (rows : List Json) (pretty : Bool) (request : Request) : Report :=
  match execute (m := Id) (Memory.source rows) options request with
  | .ok envelope => .success (printEnvelope pretty envelope)
  | .error e => rejected "grid request failed" e

def statementLine (d : Sql.Dialect) (pieces : List Sql.Piece) : String :=
  Sql.inline d pieces ++ ";\n"

def answerSql (options : Options) (d : Sql.Dialect) (table : String) (request : Request) : Report :=
  match prepare options request with
  | .ok prepared =>
    let count := match prepared.count with
      | none => ""
      | some count => statementLine d (Sql.selectCount table count)
    .success (statementLine d (Sql.selectPage table prepared.page) ++ count)
  | .error e => rejected "grid request failed" e

def runCommand [Monad m] (host : Host m) (config : Config) : Command → ExceptT Report m Report
  | .run data request maxTake pretty => do
    let rows ← readRows host data
    return answerRun (optionsOf config maxTake) rows pretty (← readRequest host request)
  | .sql dialect table request maxTake => do
    return answerSql (optionsOf config maxTake) (dialect.getD config.dialect)
      (table.getD config.table) (← readRequest host request)

def run [Monad m] (host : Host m) (args : List String) : m Report := do
  match readArgs args with
  | .error refusal => return refusal.report
  | .ok command =>
    match host.config with
    | .error fault => return .failure "failed to load configuration" fault.chain
    | .ok config =>
      match ← runCommand host config command with
      | .ok report | .error report => return report

end DataGrid.Cli
