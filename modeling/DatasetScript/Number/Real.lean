import DatasetScript.Number.Binary64
/-!
# Real functions

The real functions of the language on doubles. Results that are not finite count as missing.
-/

namespace DatasetScript.Real

def finite (x : Float) : Option Float :=
  if x.isFinite then some x else none

/-- The integer that a whole double stands for, if it has 64 bits. -/
def toInteger (x : Float) : Option Int64 :=
  if x.isFinite && x ≥ -9223372036854775808.0 && x < 9223372036854775808.0 then some x.toInt64
  else none

def trunc (x : Float) : Float := if x < 0 then x.ceil else x.floor

/-- Repeated squaring: the factors of `base ^ n` for the binary digits of `n`, lowest first. -/
def powerLoop (result base : Float) (n : Nat) : Nat → Float
  | 0 => result
  | fuel + 1 =>
    let result := if n % 2 = 1 then result * base else result
    if n / 2 = 0 then result else powerLoop result (base * base) (n / 2) fuel

/-- `base ^ n` by repeated squaring, the reciprocal of the positive power if `n` is negative. -/
def wholePower (base : Float) (n : Int) : Float :=
  let power := powerLoop 1 base n.natAbs (n.natAbs.log2 + 1)
  if n < 0 then 1 / power else power

/-- Applies a rounding rule at a number of decimal places, which must have 32 bits. -/
def roundTo (x : Float) (places : Int64) (rule : Float → Float) : Option Float :=
  if -2147483648 ≤ places.toInt ∧ places.toInt < 2147483648 then
    let factor := wholePower 10 places.toInt
    finite (rule (x * factor) / factor)
  else none

/-- The exact remainder of the division that truncates, with the sign of the dividend. -/
def remainder (x y : Float) : Float :=
  match Binary64.ofFloat? x, Binary64.ofFloat? y with
  | some a, some b =>
    if b.significand = 0 then 0.0 / 0.0
    else
      let e := min a.exponent b.exponent
      let m := a.significand * twoTo (a.exponent - e).toNat
      let n := b.significand * twoTo (b.exponent - e).toNat
      Binary64.toFloat ⟨a.negative, m % n, e⟩
  | some _, none => if y.isNaN then y else x
  | none, _ => 0.0 / 0.0

/-- The logarithm of `x` to a base. -/
def logarithm (x base : Float) : Option Float :=
  if x ≤ 0 || base ≤ 0 || base == 1 then none else finite (x.log / base.log)

end DatasetScript.Real
