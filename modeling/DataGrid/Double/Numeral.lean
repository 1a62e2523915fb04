import DataGrid.Double.Basic
import DataGrid.Text.Basic

namespace DataGrid.Double

open Text

/-- The decimal `significand × 10 ^ exponent` with a sign. -/
structure Numeral where
  negative : Bool
  significand : Nat
  exponent : Int
deriving DecidableEq

/-- Far outside the range the powers of ten are not worked out: past 10⁴⁰⁰ a number is infinite, and
below 10⁻⁴⁰⁰ it is zero. -/
def Numeral.toDouble (x : Numeral) : Double :=
  let past := (Nat.toDigits 10 x.significand).length + x.exponent
  if x.significand = 0 ∨ past < -400 then ofUnits x.negative 0 1
  else if 400 < past then .infinite x.negative
  else
    ofUnits x.negative (x.significand * Nat.pow 10 x.exponent.toNat * one)
      (Nat.pow 10 (-x.exponent).toNat)

/-- The count of units nearest to a power of ten. -/
def powerOfTen (e : Nat) : Nat :=
  nearestUnits (Nat.pow 10 e * one) 1

/-- Divided by 10ᵉ, but by no larger power of ten than 10³⁰⁸ at once, and rounded every time. -/
def dividedByTens (units e : Nat) : Nat :=
  if e ≤ 308 then nearestUnits (units * one) (powerOfTen e)
  else if units = 0 then 0
  else dividedByTens (nearestUnits (units * one) (powerOfTen 308)) (e - 308)
termination_by e

/-- The numeral worked out in numbers that are rounded already, its significand and powers of ten.
It may miss the nearest number by a little. -/
def Numeral.stepwise (x : Numeral) : Double :=
  let units := nearestUnits (x.significand * one) 1
  if x.exponent < 0 then ofUnits x.negative (dividedByTens units x.exponent.natAbs) 1
  else if x.exponent ≤ 308 then ofUnits x.negative (units * powerOfTen x.exponent.natAbs) one
  else if units = 0 then ofUnits x.negative 0 1
  else .infinite x.negative

/-- Digits go on from a number as long as 64 bits hold it. -/
def addDigits (n : Nat) : List Char → Nat × List Char
  | [] => (n, [])
  | c :: digits =>
    if 10 * n + digitValue c ≤ 0xFFFFFFFFFFFFFFFF then addDigits (10 * n + digitValue c) digits
    else (n, c :: digits)

/-- The numeral of no more digits than 64 bits hold. Those left over before the point count as
zeros, and those left over after it do not count. -/
def Numeral.ofFirstDigits (negative : Bool) (whole fraction : List Char) (exponent : Int) :
    Numeral :=
  let (n, left) := addDigits 0 whole
  let (n, left') := addDigits n fraction
  ⟨negative, n, exponent + left.length - (fraction.length - left'.length)⟩

def Numeral.ofDigits (negative : Bool) (whole fraction : List Char) (exponent : Int) : Numeral :=
  ⟨negative, digitsValue (whole ++ fraction), exponent - fraction.length⟩

def readSign : List Char → Bool × List Char
  | '-' :: s => (true, s)
  | '+' :: s => (false, s)
  | s => (false, s)

def readExponent? : List Char → Option Int
  | [] => some 0
  | c :: s =>
    if c = 'e' ∨ c = 'E' then
      match readSign s with
      | (negative, digits) =>
        if digits ≠ [] ∧ digits.all Char.isDigit then some (signed negative (digitsValue digits))
        else none
    else none

def readFraction : List Char → List Char × List Char
  | '.' :: s => spanDigits s
  | s => ([], s)

/-- A numeral has a digit before or after its point. -/
def readNumeral? (negative : Bool) (s : List Char) : Option Numeral :=
  let (whole, s) := spanDigits s
  let (fraction, s) := readFraction s
  if whole = [] ∧ fraction = [] then none
  else (readExponent? s).map (Numeral.ofDigits negative whole fraction)

/-- The words and numerals that name a number; capitals count as small letters in words. -/
def parse? (s : String) : Option Double :=
  let (negative, body) := readSign s.toList
  match String.ofList (body.map Char.toLower) with
  | "inf" | "infinity" => some (.infinite negative)
  | "nan" => some .nan
  | _ => (readNumeral? negative body).map Numeral.toDouble

end DataGrid.Double
