import DataGrid.Sql.Junction
import DataGrid.Sql.Text

namespace DataGrid.Sql

inductive Condition where
  | atom (predicate : Predicate)
  | join (joiner : Joiner) (left right : Condition)

namespace Condition

mutual

def ofEntry : Entry → Condition
  | .atom predicate => .atom predicate
  | .nested joiner first rest => ofEntries joiner (ofEntry first) rest

/-- The entries joined two by two onto what comes before them, from left to right. -/
def ofEntries (joiner : Joiner) (before : Condition) : List Entry → Condition
  | [] => before
  | entry :: entries => ofEntries joiner (.join joiner before (ofEntry entry)) entries

end

def ofJunction (j : Junction) : Condition :=
  ofEntries j.joiner (ofEntry j.first) j.rest

def ofWhere? (w : Where) : Option Condition :=
  (Junction.ofWhere? w).map ofJunction

inductive Token where
  | atom (predicate : Predicate)
  | word (joiner : Joiner)
  | openParen
  | closeParen

def parenthesized (tokens : List Token) : List Token :=
  .openParen :: tokens ++ [.closeParen]

def isJoin : Condition → Bool
  | .join .. => true
  | .atom _ => false

/-- Whether a condition to the left of a joiner needs parentheses: not when it joins by the same. -/
def needsParens (joiner : Joiner) : Condition → Bool
  | .join own _ _ => own != joiner
  | .atom _ => false

def tokens : Condition → List Token
  | .atom p => [.atom p]
  | .join joiner left right =>
    (if needsParens joiner left then parenthesized left.tokens else left.tokens) ++
      .word joiner ::
        (if right.isJoin then parenthesized right.tokens else right.tokens)

end Condition

def param? : Operand → Option Param
  | .bool b => some (.bool b)
  | .int i => some (.int i)
  | .float x => some (.float x)
  | .str s => some (.str s)
  | .list _ | .null => none

/-- A condition that never holds. -/
def nothing : List Piece :=
  [.param (.bool false)]

/-- A column against one value; what is no value is never met. -/
def binary (field word : String) : Option Param → List Piece
  | some v => [.ident field, .text (" " ++ word ++ " "), .param v]
  | none => nothing

def separatedParams : List Param → List Piece
  | [] => []
  | [v] => [.param v]
  | v :: vs => .param v :: .text ", " :: separatedParams vs

/-- Membership in an empty list is written as a comparison of constants. -/
def membership (field word : String) (emptyRight : Nat) : List Param → List Piece
  | [] => [.param (.constant 1), .text " = ", .param (.constant emptyRight)]
  | vs => .ident field :: .text (" " ++ word ++ " (") :: separatedParams vs ++ [.text ")"]

def patternParam? (operand : Operand) : Option Param :=
  operand.text?.map .str

def predicate (p : Predicate) : List Piece :=
  match p.comparison, p.value with
  | .equal, .null => [.ident p.field, .text " IS NULL"]
  | .equal, .list items => membership p.field "IN" 2 (items.filterMap param?)
  | .equal, v => binary p.field "=" (param? v)
  | .notEqual, .null => [.ident p.field, .text " IS NOT NULL"]
  | .notEqual, .list items => membership p.field "NOT IN" 1 (items.filterMap param?)
  | .notEqual, v => binary p.field "<>" (param? v)
  | .greater, v => binary p.field ">" (param? v)
  | .greaterOrEqual, v => binary p.field ">=" (param? v)
  | .less, v => binary p.field "<" (param? v)
  | .lessOrEqual, v => binary p.field "<=" (param? v)
  | .like, v => binary p.field "LIKE" (patternParam? v)
  | .notLike, v => binary p.field "NOT LIKE" (patternParam? v)

def joinWord : Joiner → String
  | .and => " AND "
  | .or => " OR "

def Condition.Token.pieces : Token → List Piece
  | .atom p => predicate p
  | .word joiner => [.text (joinWord joiner)]
  | .openParen => [.text "("]
  | .closeParen => [.text ")"]

def Condition.pieces (c : Condition) : List Piece :=
  c.tokens.flatMap Token.pieces

end DataGrid.Sql
