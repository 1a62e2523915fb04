import DataGrid.Error

namespace DataGrid.Cli

structure Report where
  exitCode : Nat
  output : String
  errors : String
deriving DecidableEq

namespace Report

def success (output : String) : Report :=
  ⟨0, output, ""⟩

/-- The lines of a text after the first one set off by a margin. -/
def withMargin (margin : String) (text : String) : String :=
  ("\n" ++ margin).intercalate (text.splitOn "\n")

def numberedCause (index : Nat) (cause : String) : String :=
  let number := toString index
  let indent := "".pushn ' ' (5 - number.length)
  "\n" ++ indent ++ number ++ ": " ++ withMargin "       " cause

/-- The causes of a failure, numbered when there are several. -/
def causesText : List String → String
  | [] => ""
  | [cause] => "\n\nCaused by:\n    " ++ withMargin "    " cause
  | causes => "\n\nCaused by:" ++ String.join (causes.mapIdx numberedCause)

/-- What went wrong, and why, each cause after the one that it explains. -/
def failure (what : String) (causes : List String) : Report :=
  ⟨1, "", "Error: " ++ what ++ causesText causes ++ "\n"⟩

end Report

def causesOf (e : QueryError) : List String :=
  e.message :: e.source?.toList

end DataGrid.Cli
