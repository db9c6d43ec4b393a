import DatasetScript.Number.Binary64
/-!
# Decimal numbers

A decimal is an integer coefficient times a power of ten. `Decimal.shortest` finds the decimal
with the fewest digits that reads back as a given double, the nearest one of those (of two
equally near ones, as a `Tie` says), and `Decimal.toFloat` reads a decimal as the nearest double.
-/

namespace DatasetScript

/-- The number `±coefficient · 10 ^ exponent`. -/
structure Decimal where
  negative : Bool
  coefficient : Nat
  exponent : Int
  deriving DecidableEq

namespace Decimal

/-! ### Reading -/

/-- Decimal exponents beyond this bound lie outside the range of doubles for every
coefficient with fewer digits than the bound is large. -/
def exponentBound (coefficient : Nat) : Nat := 400 + (coefficient.log2 + 1)

def toFloat (x : Decimal) : Float :=
  let bound : Int := exponentBound x.coefficient
  let e := max (-bound) (min bound x.exponent)
  if e ≥ 0 then Binary64.ofRatio x.negative (x.coefficient * tenTo e.toNat) 1
  else Binary64.ofRatio x.negative x.coefficient (tenTo (-e).toNat)

/-! ### Shortest digits -/

/-- The numbers that round to a double, as multiples of `2 ^ exponent`. -/
structure Interval where
  low : Nat
  value : Nat
  high : Nat
  exponent : Int
  closed : Bool

/-- Quarter units of the last place leave room for the halfway points on both sides; below a
power of two the neighbour is half as far. -/
def Interval.of (x : Binary64) : Interval where
  low := 4 * x.significand -
    if x.significand = twoTo 52 ∧ x.exponent ≠ Binary64.leastExponent then 1 else 2
  value := 4 * x.significand
  high := 4 * x.significand + 2
  exponent := x.exponent - 2
  closed := x.significand % 2 = 0

/-- Compares `a · 10 ^ p` with `b · 2 ^ q`. -/
def compareScaled (a : Nat) (p : Int) (b : Nat) (q : Int) : Ordering :=
  compare (a * tenTo p.toNat * twoTo (-q).toNat) (b * twoTo q.toNat * tenTo (-p).toNat)

/-- Whether `a · 10 ^ p` rounds to the double that the interval belongs to. -/
def Interval.contains (i : Interval) (a : Nat) (p : Int) : Bool :=
  (match compareScaled a p i.low i.exponent with
    | .gt => true
    | .eq => i.closed
    | .lt => false) &&
  (match compareScaled a p i.high i.exponent with
    | .lt => true
    | .eq => i.closed
    | .gt => false)

/-- `⌊value / 10 ^ p⌋`. -/
def Interval.floorAt (i : Interval) (p : Int) : Nat :=
  i.value * twoTo i.exponent.toNat * tenTo (-p).toNat /
    (twoTo (-i.exponent).toNat * tenTo p.toNat)

/-- Which of two equally near decimals is chosen. -/
inductive Tie where
  | up
  | even
  deriving DecidableEq

/-- Whether `(a + 1) · 10 ^ p` is chosen over `a · 10 ^ p`, the value lying between them. -/
def Interval.roundsUp (i : Interval) (tie : Tie) (a : Nat) (p : Int) : Bool :=
  match compareScaled (2 * a + 1) p (2 * i.value) i.exponent with
  | .lt => true
  | .eq => tie == .up || a % 2 == 1
  | .gt => false

/-- The multiple of `10 ^ p` next to the value that rounds to it, the nearer if both do. -/
def Interval.neighbour? (i : Interval) (tie : Tie) (p : Int) : Option Nat :=
  let a := i.floorAt p
  match i.contains a p, i.contains (a + 1) p with
  | true, true => some (if i.roundsUp tie a p then a + 1 else a)
  | true, false => some a
  | false, true => some (a + 1)
  | false, false => none

/-- Searches the grids of `digits`, `digits + 1`, … significant digits below `10 ^ top`. -/
def Interval.search (i : Interval) (tie : Tie) (top : Int) (digits : Nat) : Nat → Nat × Int
  | 0 => (i.floorAt (top - digits), top - digits)
  | fuel + 1 =>
    match i.neighbour? tie (top - digits) with
    | some a => (a, top - digits)
    | none => i.search tie top (digits + 1) fuel

/-- The number of decimal digits of `n`, at least one. -/
def digitCount (n : Nat) : Nat := (Nat.toDigits 10 n).length

/-- The least `t` with `value < 10 ^ t`, up to one: a start for the search. -/
def Interval.top (i : Interval) : Int :=
  let floor := i.floorAt 0
  if floor > 0 then digitCount floor
  else
    let inverse := twoTo (-i.exponent).toNat / i.value
    1 - digitCount inverse

/-- Moves trailing zeros of the coefficient into the exponent. -/
def strip (coefficient : Nat) (exponent : Int) : Nat → Nat × Int
  | 0 => (coefficient, exponent)
  | fuel + 1 =>
    if coefficient % 10 = 0 ∧ coefficient ≠ 0 then strip (coefficient / 10) (exponent + 1) fuel
    else (coefficient, exponent)

/-- The decimal with the fewest digits that reads back as a double, and the nearest of those. -/
def shortest (tie : Tie) (x : Binary64) : Decimal :=
  if x.significand = 0 then ⟨x.negative, 0, 0⟩
  else
    let i := Interval.of x
    let (a, p) := i.search tie i.top 1 17
    let (a, p) := strip a p 20
    ⟨x.negative, a, p⟩

end Decimal

end DatasetScript
