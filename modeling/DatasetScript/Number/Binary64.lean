import DatasetScript.Number.Power
/-!
# Doubles as exact numbers

A finite double is a signed integer significand times a power of two. This module takes
doubles apart into that form and rounds exact quotients back to the nearest double, ties to
the even significand.
-/

namespace DatasetScript

/-- The number `±significand · 2 ^ exponent`. -/
structure Binary64 where
  negative : Bool
  significand : Nat
  exponent : Int
  deriving DecidableEq

namespace Binary64

def leastExponent : Int := -1074

/-- The exact value of a finite double, `none` for infinities and NaN. -/
def ofFloat? (x : Float) : Option Binary64 :=
  let bits := x.toBits.toNat
  let negative : Bool := bits ≥ twoTo 63
  let biased : Nat := bits / twoTo 52 % twoTo 11
  let fraction := bits % twoTo 52
  if biased = twoTo 11 - 1 then none
  else if biased = 0 then some ⟨negative, fraction, leastExponent⟩
  else some ⟨negative, fraction + twoTo 52, (biased : Int) - 1075⟩

/-- The bits of `±m · 2 ^ q` for `m ≤ 2 ^ 53`, where `q` is the least exponent if `m < 2 ^ 52`.
The leading bit of `m` carries into the exponent field, and too large a number becomes
infinite. -/
def bits (negative : Bool) (m : Nat) (q : Int) : Nat :=
  let sign := if negative then twoTo 63 else 0
  sign + min ((q - leastExponent).toNat * twoTo 52 + m) ((twoTo 11 - 1) * twoTo 52)

/-- `n / d` to the nearest integer, ties to even. -/
def roundDiv (n d : Nat) : Nat :=
  let floor := n / d
  let rest := n % d
  if 2 * rest < d then floor
  else if 2 * rest > d then floor + 1
  else floor + floor % 2

/-- `n / d / 2 ^ q` as a quotient of natural numbers. -/
def scaled (n d : Nat) (q : Int) : Nat × Nat :=
  if q ≥ 0 then (n, d * twoTo q.toNat) else (n * twoTo (-q).toNat, d)

/-- The double nearest to `±n / d`. -/
def ofRatio (negative : Bool) (n d : Nat) : Float :=
  if n = 0 then Float.ofBits (bits negative 0 leastExponent).toUInt64
  else
    let estimate : Int := (n.log2 : Int) - d.log2 - 53
    let (n₀, d₀) := scaled n d estimate
    let q := max leastExponent (if n₀ / d₀ < twoTo 53 then estimate else estimate + 1)
    let (n₁, d₁) := scaled n d q
    Float.ofBits (bits negative (roundDiv n₁ d₁) q).toUInt64

/-- The double nearest to `±m · 2 ^ q`. -/
def toFloat (x : Binary64) : Float :=
  let (n, d) := scaled x.significand 1 (-x.exponent)
  ofRatio x.negative n d

end Binary64

end DatasetScript
