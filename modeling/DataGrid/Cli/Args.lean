import DataGrid.Config

namespace DataGrid.Cli

/-- What answers a request: rows of a file, or the statements it stands for. -/
inductive Command where
  | run (data : String) (request : Option String) (maxTake : Option Nat) (pretty : Bool)
  | sql (dialect : Option Sql.Dialect) (table : Option String) (request : Option String)
      (maxTake : Option Nat)
deriving DecidableEq

inductive Refusal where
  | help
  | version
  | usage
deriving DecidableEq

/-- The options of a command as far as they are read. -/
structure Draft where
  data : Option String := none
  request : Option String := none
  maxTake : Option Nat := none
  pretty : Option Unit := none
  dialect : Option Sql.Dialect := none
  table : Option String := none

def path? (value : String) : Option String :=
  if value = "" then none else some value

def setOnce (old : Option α) (value : Option α) : Except Refusal (Option α) :=
  match old, value with
  | none, some v => .ok (some v)
  | _, _ => .error .usage

abbrev SetOption := Draft → String → Except Refusal Draft

def setData : SetOption := fun d value => do
  return { d with data := ← setOnce d.data (path? value) }

def setRequest : SetOption := fun d value => do
  return { d with request := ← setOnce d.request (path? value) }

def setMaxTake : SetOption := fun d value => do
  return { d with maxTake := ← setOnce d.maxTake (Config.readNumber value).toOption }

def setDialect : SetOption := fun d value => do
  return { d with dialect := ← setOnce d.dialect (Sql.Dialect.ofName? value) }

def setTable : SetOption := fun d value => do
  return { d with table := ← setOnce d.table (some value) }

/-- The options of a command that take a value, and whether it may be asked for lines and
indents. -/
structure OptionSet where
  options : List (String × SetOption)
  hasPretty : Bool

def runOptions : OptionSet :=
  ⟨[("data", setData), ("request", setRequest), ("max-take", setMaxTake)], true⟩

def sqlOptions : OptionSet :=
  ⟨[("backend", setDialect), ("table", setTable), ("request", setRequest),
    ("max-take", setMaxTake)], false⟩

/-- An argument by its first characters: a word, a long option with or without a value of its own,
or short options. A single dash is a word. -/
inductive Arg where
  | word
  | escape
  | long (name : String) (value : Option String)
  | short (letters : List Char)

def Arg.ofText (arg : String) : Arg :=
  match arg.toList with
  | ['-', '-'] => .escape
  | '-' :: '-' :: body =>
    match body.dropWhile (· != '=') with
    | [] => .long (String.ofList body) none
    | _ :: value =>
      .long (String.ofList (body.takeWhile (· != '='))) (some (String.ofList value))
  | '-' :: letter :: letters => .short (letter :: letters)
  | _ => .word

def Arg.isWord : Arg → Bool
  | .word => true
  | _ => false

/-- The options of a command; nothing that is not an option belongs to one. -/
def readOptions (s : OptionSet) (d : Draft) : List String → Except Refusal Draft
  | [] => .ok d
  | arg :: args =>
    match Arg.ofText arg with
    | .long "help" none => .error .help
    | .long "pretty" none =>
      if s.hasPretty ∧ d.pretty = none then readOptions s { d with pretty := some () } args
      else .error .usage
    | .long name (some value) =>
      match s.options.lookup name with
      | some set => do readOptions s (← set d value) args
      | none => .error .usage
    | .long name none =>
      match s.options.lookup name, args with
      | some set, value :: args =>
        if (Arg.ofText value).isWord then do readOptions s (← set d value) args
        else .error .usage
      | _, _ => .error .usage
    | .short ('h' :: _) => .error .help
    | .escape => if args = [] then .ok d else .error .usage
    | _ => .error .usage

def Draft.runCommand (d : Draft) : Except Refusal Command :=
  match d.data with
  | some data => .ok (.run data d.request d.maxTake d.pretty.isSome)
  | none => .error .usage

def Draft.sqlCommand (d : Draft) : Command :=
  .sql d.dialect d.table d.request d.maxTake

def readHelp : List String → Refusal
  | [] | ["run"] | ["sql"] | ["help"] => .help
  | _ => .usage

def readArgs : List String → Except Refusal Command
  | [] => .error .usage
  | "run" :: args => do (← readOptions runOptions {} args).runCommand
  | "sql" :: args => return (← readOptions sqlOptions {} args).sqlCommand
  | "help" :: args => .error (readHelp args)
  | arg :: _ =>
    match Arg.ofText arg with
    | .long "help" none | .short ('h' :: _) => .error .help
    | .long "version" none | .short ('V' :: _) => .error .version
    | _ => .error .usage

end DataGrid.Cli
