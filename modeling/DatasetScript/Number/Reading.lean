import DatasetScript.Number.Decimal
/-!
# Reading decimal texts

Splits `12.5e-3` into sign, digits and exponent. The parts say which of them were present, so
that stricter notations can be recognised on the same split.
-/

namespace DatasetScript

/-- A decimal numeral, split at its marks. -/
structure Numeral where
  negative : Bool
  whole : List Char
  fraction : Option (List Char)
  exponent : Option (Bool × List Char)

namespace Numeral

/-- The number that a list of decimal digits stands for. -/
def ofDigits (ds : List Char) : Nat :=
  ds.foldl (fun n d => 10 * n + (d.toNat - '0'.toNat)) 0

/-- Everything after the sign, if it is digits, an optional fraction and an optional exponent. -/
def ofUnsigned? (negative : Bool) (text : List Char) : Option Numeral :=
  let whole := text.takeWhile Char.isDigit
  let rest := text.dropWhile Char.isDigit
  let (fraction, rest) := match rest with
    | '.' :: r => (some (r.takeWhile Char.isDigit), r.dropWhile Char.isDigit)
    | r => (none, r)
  match rest with
  | [] => some ⟨negative, whole, fraction, none⟩
  | mark :: r =>
    if mark = 'e' ∨ mark = 'E' then
      let (down, ds) := match r with
        | '-' :: ds => (true, ds)
        | '+' :: ds => (false, ds)
        | ds => (false, ds)
      if ds ≠ [] ∧ ds.all Char.isDigit then some ⟨negative, whole, fraction, some (down, ds)⟩
      else none
    else none

def toDecimal (n : Numeral) : Decimal :=
  let fraction := n.fraction.getD []
  let shift : Int := match n.exponent with
    | some (true, ds) => -(ofDigits ds : Int)
    | some (false, ds) => ofDigits ds
    | none => 0
  ⟨n.negative, ofDigits (n.whole ++ fraction), shift - fraction.length⟩

end Numeral

/-- Reads the texts of finite and infinite numbers and of NaN: either sign may lead, digits may
be missing on one side of the point, and the words may be in any case. -/
def readFloat? (text : String) : Option Float :=
  let (negative, rest) := match text.toList with
    | '-' :: r => (true, r)
    | '+' :: r => (false, r)
    | r => (false, r)
  let word := rest.map Char.toLower
  if word = "inf".toList ∨ word = "infinity".toList then
    some (if negative then -1.0 / 0.0 else 1.0 / 0.0)
  else if word = "nan".toList then some (0.0 / 0.0)
  else
    match Numeral.ofUnsigned? negative rest with
    | none => none
    | some n =>
      if n.whole = [] ∧ n.fraction.getD [] = [] then none
      else some n.toDecimal.toFloat

end DatasetScript
