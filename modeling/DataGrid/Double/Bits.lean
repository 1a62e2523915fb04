import DataGrid.Double.Basic
import DataGrid.Text.Basic

namespace DataGrid.Double

/-- A sign, eleven bits of exponent, and 52 bits of fraction. -/
def ofBits (bits : Nat) : Double :=
  let negative := bits >>> 63 % 2 == 1
  let exponent := bits >>> 52 % 2048
  let fraction := bits % 1 <<< 52
  if exponent = 2047 then
    if fraction = 0 then .infinite negative else .nan
  else if exponent = 0 then ofUnits negative fraction 1
  else ofUnits negative ((1 <<< 52 + fraction) <<< (exponent - 1)) 1

def magnitudeBits (units : Nat) : Nat :=
  if units < 1 <<< 52 then units
  else gridOf units <<< 52 + units >>> gridOf units

def signBit (negative : Bool) : Nat :=
  if negative then 1 <<< 63 else 0

/-- A NaN has many forms, so none is given. -/
def toBits? : Double → Option Nat
  | .nan => none
  | .infinite negative => some (signBit negative + 2047 <<< 52)
  | .finite x => some (signBit x.negative + magnitudeBits x.units)

def ofHex? (s : String) : Option Double :=
  (Text.hexDigitsValue? s.toList).map ofBits

def hex (x : Double) : String :=
  match x.toBits? with
  | none => "nan"
  | some bits => String.ofList (Text.hexPadded 16 bits)

end DataGrid.Double
