import DatasetScript.Number.Decimal
/-!
# Number texts

How a number is written: the shortest digits that read back, in positional notation for
magnitudes near one and with an exponent otherwise. The two notations in use differ in where
the exponent starts, in its sign, and in which of two equally near decimals they choose.
-/

namespace DatasetScript

/-- Positional notation serves the numbers whose leading digit stands for a power of ten
between the two bounds. -/
structure NumberLayout where
  leastPower : Int
  greatestPower : Int
  plusSign : Bool
  tie : Decimal.Tie

namespace NumberLayout

/-- Messages write `0.0001` and `1e-5`, `1000000000000000.0` and `1e16`. -/
def message : NumberLayout := ⟨-4, 15, false, .up⟩

/-- Interchange texts write `0.00001` and `1e-6`, `1000000000000000.0` and `1e+16`. -/
def interchange : NumberLayout := ⟨-5, 15, true, .even⟩

def digits (n : Nat) : List Char := Nat.toDigits 10 n

/-- Positional notation always shows a fraction. -/
def positional (ds : List Char) (exponent : Int) : List Char :=
  if exponent ≥ 0 then ds ++ List.replicate exponent.toNat '0' ++ ".0".toList
  else
    let places := (-exponent).toNat
    if places < ds.length then ds.take (ds.length - places) ++ '.' :: ds.drop (ds.length - places)
    else "0.".toList ++ List.replicate (places - ds.length) '0' ++ ds

def scientific (layout : NumberLayout) (ds : List Char) (power : Int) : List Char :=
  let sign := if power < 0 then ['-'] else if layout.plusSign then ['+'] else []
  let mantissa := match ds with
    | d :: e :: rest => d :: '.' :: e :: rest
    | short => short
  mantissa ++ 'e' :: sign ++ digits power.natAbs

def writeDecimal (layout : NumberLayout) (x : Decimal) : List Char :=
  let ds := digits x.coefficient
  let power : Int := ds.length + x.exponent - 1
  let magnitude :=
    if layout.leastPower ≤ power ∧ power ≤ layout.greatestPower then positional ds x.exponent
    else layout.scientific ds power
  if x.negative then '-' :: magnitude else magnitude

def write (layout : NumberLayout) (x : Float) : String :=
  match Binary64.ofFloat? x with
  | some b => String.ofList (layout.writeDecimal (.shortest layout.tie b))
  | none => if x.isNaN then "NaN" else if x < 0 then "-inf" else "inf"

end NumberLayout

end DatasetScript
