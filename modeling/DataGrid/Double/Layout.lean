import DataGrid.Double.Shortest

namespace DataGrid.Double

structure Layout where
  tie : Tie
  /-- The exponents of the first digit from the least to before the last that go without an exponent
  part; `none` when all do. -/
  positional : Option (Int × Int)
  /-- Whether a whole number ends in `.0`. -/
  wholeMark : Bool

/-- Numbers in rows: between 10⁻⁵ and 10¹⁶ without an exponent, always told apart from integers. -/
def Layout.row : Layout :=
  ⟨.even, some (-5, 16), true⟩

/-- Numbers in texts: never an exponent. -/
def Layout.plain : Layout :=
  ⟨.up, none, false⟩

def zeros (n : Nat) : List Char :=
  List.replicate n '0'

def decimalDigits (n : Nat) : List Char :=
  Nat.toDigits 10 n

def Layout.usesPoint (l : Layout) (exponent : Int) : Bool :=
  match l.positional with
  | none => true
  | some (least, past) => least ≤ exponent && exponent < past

/-- Digits whose last stands at `place`, written out around the point. -/
def Layout.pointed (l : Layout) (digits : List Char) (place : Int) : List Char :=
  if 0 ≤ place then
    digits ++ zeros place.toNat ++ (if l.wholeMark then ['.', '0'] else [])
  else
    let fraction := (-place).toNat
    if fraction < digits.length then
      let whole := digits.length - fraction
      digits.take whole ++ '.' :: digits.drop whole
    else '0' :: '.' :: zeros (fraction - digits.length) ++ digits

def scientific (digits : List Char) (exponent : Int) : List Char :=
  let mantissa :=
    match digits with
    | d :: r@(_ :: _) => d :: '.' :: r
    | _ => digits
  mantissa ++ 'e' :: (if exponent < 0 then '-' else '+') :: decimalDigits exponent.natAbs

def Layout.magnitude (l : Layout) (units : Nat) : List Char :=
  let d := shortest l.tie units
  let digits := decimalDigits d.digits
  let exponent := d.place + digits.length - 1
  if l.usesPoint exponent then l.pointed digits d.place else scientific digits exponent

def Finite.write (l : Layout) (x : Finite) : List Char :=
  (if x.negative then ['-'] else []) ++ l.magnitude x.units

def Finite.rowText (x : Finite) : String :=
  String.ofList (x.write .row)

def plainText : Double → String
  | .nan => "NaN"
  | .infinite false => "inf"
  | .infinite true => "-inf"
  | .finite x => String.ofList (x.write .plain)

end DataGrid.Double
