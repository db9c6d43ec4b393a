import DatasetScript.Number.Decimal
import DatasetScript.Proofs.Keys
import Mathlib.Algebra.Order.Field.Power
import Mathlib.Algebra.Order.Floor.Semifield
import Mathlib.Data.Rat.Floor
import Mathlib.Tactic.FieldSimp
import Mathlib.Tactic.Linarith
import Mathlib.Tactic.Positivity
import Mathlib.Tactic.Ring
/-!
# Shortest digits

The decimal that is found for a finite double rounds to it, as seventeen digits are always enough,
and a number rounds to one double only. Main statements: `shortest_holds` and `eq_of_holds`.
-/

namespace DatasetScript

theorem twoTo_eq (n : Nat) : twoTo n = 2 ^ n := rfl

theorem tenTo_eq (n : Nat) : tenTo n = 10 ^ n := rfl

/-! ### Fields of finite doubles -/

namespace Binary64

theorem unpackExponent_eq_iff (bits : UInt64) :
    @Float.Model.UnpackedFloat.unpackExponent .binary64 bits.toBitVec = -1#11 ↔
      bits.toNat / twoTo 52 % twoTo 11 = twoTo 11 - 1 := by
  rw [← BitVec.toNat_inj]
  simp only [Float.Model.UnpackedFloat.unpackExponent, BitVec.toNat_cast, BitVec.extractLsb_toNat,
    Nat.shiftRight_eq_div_pow, twoTo_eq]
  rfl

theorem isFinite_iff (x : Float) : x.isFinite ↔ (ofFloat? x).isSome := by
  obtain ⟨⟨bits, valid⟩⟩ := x
  have greatest := unpackExponent_eq_iff bits
  unfold Float.isFinite Float.Model.isFinite Float.Model.unpack Float.Model.UnpackedFloat.unpack
    ofFloat? Float.toBits
  dsimp only
  by_cases h : bits.toNat / twoTo 52 % twoTo 11 = twoTo 11 - 1
  · rw [if_pos (greatest.mpr h), if_pos h]
    split <;> exact iff_of_false nofun nofun
  · rw [if_neg (mt greatest.mp h), if_neg h]
    refine iff_of_true ?_ (by split <;> rfl)
    by_cases least : @Float.Model.UnpackedFloat.unpackExponent .binary64 bits.toBitVec = 0#11
    · rw [if_pos least]
      by_cases zero : @Float.Model.UnpackedFloat.unpackMantissa .binary64 bits.toBitVec = 0#52
      · rw [dif_pos zero]
        rfl
      · rw [dif_neg zero]
        rfl
    · rw [if_neg least]
      rfl

/-- The significand has all its bits, unless the exponent is the least. -/
structure Normal (x : Binary64) : Prop where
  bounded : x.significand < 2 ^ 53
  least : leastExponent ≤ x.exponent
  leading : x.exponent ≠ leastExponent → 2 ^ 52 ≤ x.significand

/-- The fields of a finite double: sign, exponent and fraction. -/
theorem ofFloat?_fields {x : Float} {b : Binary64} (h : ofFloat? x = some b) :
    b.negative = decide (2 ^ 63 ≤ x.toBits.toNat) ∧
      (x.toBits.toNat / 2 ^ 52 % 2 ^ 11 = 0 ∧
          b.significand = x.toBits.toNat % 2 ^ 52 ∧ b.exponent = leastExponent ∨
        x.toBits.toNat / 2 ^ 52 % 2 ^ 11 ≠ 0 ∧
          b.significand = x.toBits.toNat % 2 ^ 52 + 2 ^ 52 ∧
          b.exponent = (x.toBits.toNat / 2 ^ 52 % 2 ^ 11 : Nat) - 1075) := by
  unfold ofFloat? at h
  dsimp only at h
  split at h
  · cases h
  split at h <;> rename_i biased <;> cases h
  · exact ⟨rfl, .inl ⟨biased, rfl, rfl⟩⟩
  · exact ⟨rfl, .inr ⟨biased, rfl, rfl⟩⟩

theorem ofFloat?_normal {x : Float} {b : Binary64} (h : ofFloat? x = some b) : b.Normal := by
  obtain ⟨-, ⟨-, significand, exponent⟩ | ⟨biased, significand, exponent⟩⟩ := ofFloat?_fields h
  · exact ⟨by omega, exponent.ge, fun h => absurd exponent h⟩
  · exact ⟨by omega, by unfold leastExponent; omega, fun _ => by omega⟩

theorem ofFloat?_inj {x y : Float} {b : Binary64} (hx : ofFloat? x = some b)
    (hy : ofFloat? y = some b) : x = y := by
  have boundX := x.toBits.toNat_lt
  have boundY := y.toBits.toNat_lt
  obtain ⟨signX, fieldsX⟩ := ofFloat?_fields hx
  obtain ⟨signY, fieldsY⟩ := ofFloat?_fields hy
  have sign := decide_eq_decide.mp (signX.symm.trans signY)
  refine toBits_inj (UInt64.toNat_inj.mp ?_)
  unfold leastExponent at *
  omega

end Binary64

namespace Decimal

/-! ### Exact comparisons -/

theorem compareScaled_eq (a : Nat) (p : Int) (b : Nat) (q : Int) :
    compareScaled a p b q = compare ((a : ℚ) * 10 ^ p) (b * 2 ^ q) := by
  -- both sides times the powers that stand below a fraction line
  set scale : ℚ := 10 ^ (-p).toNat * 2 ^ (-q).toNat with scale_eq
  have positive : 0 < scale := by positivity
  have tens : (10 : ℚ) ^ p * 10 ^ (-p).toNat = 10 ^ p.toNat := by
    rw [← zpow_natCast, ← zpow_natCast, ← zpow_add₀ (by norm_num)]
    congr 1
    omega
  have twos : (2 : ℚ) ^ q * 2 ^ (-q).toNat = 2 ^ q.toNat := by
    rw [← zpow_natCast, ← zpow_natCast, ← zpow_add₀ (by norm_num)]
    congr 1
    omega
  have left : (a : ℚ) * 10 ^ p * scale = (a * tenTo p.toNat * twoTo (-q).toNat : Nat) := by
    push_cast [tenTo_eq, twoTo_eq]
    rw [← tens, scale_eq]
    ring
  have right : (b : ℚ) * 2 ^ q * scale = (b * twoTo q.toNat * tenTo (-p).toNat : Nat) := by
    push_cast [tenTo_eq, twoTo_eq]
    rw [← twos, scale_eq]
    ring
  unfold compareScaled
  generalize a * tenTo p.toNat * twoTo (-q).toNat = m at left ⊢
  generalize b * twoTo q.toNat * tenTo (-p).toNat = n at right ⊢
  obtain less | equal | greater := lt_trichotomy m n
  · rw [compare_lt_iff_lt.mpr less, eq_comm, compare_lt_iff_lt,
      ← mul_lt_mul_iff_of_pos_right positive, left, right]
    exact_mod_cast less
  · rw [compare_eq_iff_eq.mpr equal, eq_comm, compare_eq_iff_eq, ← mul_left_inj' positive.ne', left,
      right, equal]
  · rw [compare_gt_iff_gt.mpr greater, eq_comm, compare_gt_iff_gt,
      ← mul_lt_mul_iff_of_pos_right positive, left, right]
    exact_mod_cast greater

namespace Interval

variable {i : Interval}

/-- What the ends of the interval are multiples of. -/
def unit (i : Interval) : ℚ := 2 ^ i.exponent

theorem unit_pos (i : Interval) : 0 < i.unit := zpow_pos two_pos _

def lower (i : Interval) : ℚ := i.low * i.unit

def upper (i : Interval) : ℚ := i.high * i.unit

/-- The number lies in the interval. -/
@[mk_iff]
structure Holds (i : Interval) (v : ℚ) : Prop where
  above : i.lower < v ∨ i.closed ∧ i.lower = v
  below : v < i.upper ∨ i.closed ∧ v = i.upper

theorem contains_iff {a : Nat} {p : Int} : i.contains a p ↔ i.Holds (a * 10 ^ p) := by
  unfold contains
  rw [compareScaled_eq, compareScaled_eq, ← unit, ← lower, ← upper, Bool.and_eq_true, holds_iff]
  generalize (a : ℚ) * 10 ^ p = v
  refine and_congr ?_ ?_
  · obtain less | equal | greater := lt_trichotomy v i.lower
    · simp [compare_lt_iff_lt.mpr less, less.le, less.ne']
    · simp [equal]
    · simp [compare_gt_iff_gt.mpr greater, greater]
  · obtain less | equal | greater := lt_trichotomy v i.upper
    · simp [compare_lt_iff_lt.mpr less, less]
    · simp [equal]
    · simp [compare_gt_iff_gt.mpr greater, greater.le, greater.ne']

theorem floorAt_eq (i : Interval) (p : Int) : i.floorAt p = ⌊i.value * i.unit / 10 ^ p⌋₊ := by
  unfold floorAt unit
  rw [← Nat.floor_div_eq_div (K := ℚ)]
  congr 1
  push_cast [tenTo_eq, twoTo_eq]
  obtain ⟨q, shift | shift⟩ := i.exponent.eq_nat_or_neg <;> rw [shift] <;>
  obtain ⟨n, power | power⟩ := p.eq_nat_or_neg <;> rw [power] <;>
  simp <;> field_simp

theorem floorAt_le (i : Interval) (p : Int) : i.floorAt p * 10 ^ p ≤ i.value * i.unit := by
  have positive : (0 : ℚ) < 10 ^ p := by positivity
  have unit := i.unit_pos
  rw [floorAt_eq, ← le_div_iff₀ positive]
  exact Nat.floor_le (by positivity)

theorem lt_floorAt (i : Interval) (p : Int) :
    i.value * i.unit < (i.floorAt p + 1 : Nat) * 10 ^ p := by
  have positive : (0 : ℚ) < 10 ^ p := by positivity
  rw [floorAt_eq, ← div_lt_iff₀ positive]
  exact_mod_cast Nat.lt_floor_add_one _

/-! ### The search -/

theorem neighbour?_holds {tie : Tie} {p : Int} {a : Nat} (h : i.neighbour? tie p = some a) :
    i.Holds (a * 10 ^ p) := by
  rw [← contains_iff]
  unfold neighbour? at h
  dsimp only at h
  split at h <;> rename_i low high <;> cases h
  · split
    · exact high
    · exact low
  · exact low
  · exact high

theorem neighbour?_eq_none {tie : Tie} {p : Int} (h : i.neighbour? tie p = none) :
    ¬ i.Holds (i.floorAt p * 10 ^ p) ∧ ¬ i.Holds ((i.floorAt p + 1 : Nat) * 10 ^ p) := by
  rw [← contains_iff, ← contains_iff]
  unfold neighbour? at h
  dsimp only at h
  split at h <;> rename_i low high <;> cases h
  simp [low, high]

/-- The value lies between the ends. -/
structure Proper (i : Interval) : Prop where
  low : i.low ≤ i.value
  high : i.value < i.high

/-- A grid with steps shorter than the interval has a point in it. -/
theorem neighbour?_isSome {p : Int} (tie : Tie) (proper : i.Proper)
    (fine : (10 : ℚ) ^ p < i.upper - i.lower) :
    (i.neighbour? tie p).isSome := by
  by_contra! missing
  obtain ⟨tooLow, tooHigh⟩ := neighbour?_eq_none (by simpa using missing)
  have below := i.floorAt_le p
  have above := i.lt_floorAt p
  have low : i.lower ≤ i.value * i.unit :=
    mul_le_mul_of_nonneg_right (mod_cast proper.low) i.unit_pos.le
  have high : i.value * i.unit < i.upper :=
    mul_lt_mul_of_pos_right (mod_cast proper.high) i.unit_pos
  have left : i.floorAt p * 10 ^ p ≤ i.lower := by
    by_contra! inside
    exact tooLow ⟨.inl inside, .inl (below.trans_lt high)⟩
  have right : i.upper ≤ (i.floorAt p + 1 : Nat) * 10 ^ p := by
    by_contra! inside
    exact tooHigh ⟨.inl (low.trans_lt above), .inl inside⟩
  push_cast at right
  linarith

theorem search_holds {tie : Tie} {top : Int} (proper : i.Proper)
    (fine : (10 : ℚ) ^ (top - 17) < i.upper - i.lower) (fuel digits : Nat)
    (least : digits ≤ 17) (enough : 17 < digits + fuel) :
    i.Holds ((i.search tie top digits fuel).1 * 10 ^ (i.search tie top digits fuel).2) := by
  induction fuel generalizing digits with
  | zero => omega
  | succ fuel ih =>
    unfold search
    split
    · rename_i found
      exact neighbour?_holds found
    · rename_i missing
      have further : digits ≠ 17 := by
        rintro rfl
        have found := neighbour?_isSome tie proper fine
        rw [show top - 17 = top - (17 : Nat) from rfl, missing] at found
        cases found
      exact ih (digits + 1) (by omega) (by omega)

/-! ### Seventeen digits -/

theorem lt_digitCount (n : Nat) : n < 10 ^ digitCount n :=
  (Nat.length_toDigits_le_iff (by omega) Nat.length_toDigits_pos).mp le_rfl

theorem digitCount_le {n : Nat} (positive : 0 < n) : 10 ^ (digitCount n - 1) ≤ n := by
  by_contra! less
  obtain zero | more := (digitCount n - 1).eq_zero_or_pos
  · simp [zero] at less
    omega
  · have shorter : digitCount n ≤ digitCount n - 1 :=
      (Nat.length_toDigits_le_iff (by omega) more).mpr less
    omega

theorem top_le (positive : 0 < i.value) : 10 ^ (i.top - 1) ≤ i.value * i.unit := by
  unfold top
  dsimp only
  split
  · rename_i whole
    have digits := digitCount_le whole
    have count : 0 < digitCount (i.floorAt 0) := Nat.length_toDigits_pos
    have power : (digitCount (i.floorAt 0) : Int) - 1 = (digitCount (i.floorAt 0) - 1 : Nat) := by
      omega
    calc (10 : ℚ) ^ ((digitCount (i.floorAt 0) : Int) - 1)
        = (10 ^ (digitCount (i.floorAt 0) - 1) : Nat) := by rw [power, zpow_natCast]; push_cast; rfl
      _ ≤ i.floorAt 0 := by exact_mod_cast digits
      _ ≤ i.value * i.unit := by simpa using i.floorAt_le 0
  · -- the value is the reciprocal of a number with the digits of its whole part
    set inverse := twoTo (-i.exponent).toNat / i.value
    have digits : inverse + 1 ≤ 10 ^ digitCount inverse := lt_digitCount inverse
    have scaled : twoTo (-i.exponent).toNat < 10 ^ digitCount inverse * i.value :=
      calc twoTo (-i.exponent).toNat < inverse * i.value + i.value := Nat.lt_div_mul_add positive
        _ = (inverse + 1) * i.value := (Nat.succ_mul ..).symm
        _ ≤ 10 ^ digitCount inverse * i.value := Nat.mul_le_mul_right _ digits
    have unit := i.unit_pos
    have inverted : 1 ≤ twoTo (-i.exponent).toNat * i.unit := by
      rw [twoTo_eq, Interval.unit]
      push_cast
      rw [← zpow_natCast, ← zpow_add₀ (by norm_num)]
      exact one_le_zpow₀ (by norm_num) (by omega)
    rw [show (1 - (digitCount inverse : Int) - 1) = -(digitCount inverse : Int) by omega, zpow_neg,
      zpow_natCast, inv_le_iff_one_le_mul₀ (by positivity)]
    calc (1 : ℚ) ≤ twoTo (-i.exponent).toNat * i.unit := inverted
      _ ≤ (10 ^ digitCount inverse * i.value : Nat) * i.unit := by gcongr
      _ = i.value * i.unit * 10 ^ digitCount inverse := by push_cast; ring

end Interval

/-! ### Rounding intervals of doubles -/

theorem of_high (x : Binary64) : (Interval.of x).high = 4 * x.significand + 2 := rfl

theorem of_value (x : Binary64) : (Interval.of x).value = 4 * x.significand := rfl

theorem of_low (x : Binary64) :
    (x.significand = 2 ^ 52 ∧ x.exponent ≠ Binary64.leastExponent) ∧
        (Interval.of x).low = 4 * x.significand - 1 ∨
      ¬ (x.significand = 2 ^ 52 ∧ x.exponent ≠ Binary64.leastExponent) ∧
        (Interval.of x).low = 4 * x.significand - 2 := by
  unfold Interval.of
  dsimp only
  split
  · rename_i power
    exact .inl ⟨power, rfl⟩
  · rename_i other
    exact .inr ⟨other, rfl⟩

theorem of_closed (x : Binary64) : (Interval.of x).closed ↔ x.significand % 2 = 0 := by
  simp [Interval.of]

theorem of_unit (x : Binary64) : (Interval.of x).unit = 2 ^ x.exponent / 4 := by
  unfold Interval.unit Interval.of
  rw [zpow_sub₀ (by norm_num)]
  norm_num

theorem of_proper (x : Binary64) : (Interval.of x).Proper where
  low := Nat.sub_le ..
  high := by simp [Interval.of]

/-- The interval of a double is longer than its least digit, if there are seventeen of them. -/
theorem of_fine {x : Binary64} (normal : x.Normal) (positive : 0 < x.significand) :
    (10 : ℚ) ^ ((Interval.of x).top - 17) < (Interval.of x).upper - (Interval.of x).lower := by
  have value : 0 < (Interval.of x).value := by simpa [of_value] using positive
  have top := (Interval.of x).top_le value
  -- sixteen digits are more than the bits of a significand
  have wide : (Interval.of x).value + 10 ^ 16 * (Interval.of x).low <
      10 ^ 16 * (Interval.of x).high := by
    have bounded := normal.bounded
    have low := of_low x
    rw [of_high, of_value]
    omega
  have scaled : (Interval.of x).value * (Interval.of x).unit <
      10 ^ 16 * ((Interval.of x).high - (Interval.of x).low) * (Interval.of x).unit := by
    refine mul_lt_mul_of_pos_right ?_ (Interval.unit_pos _)
    rw [mul_sub, lt_sub_iff_add_lt]
    exact_mod_cast wide
  rw [← mul_lt_mul_iff_of_pos_right (show (0 : ℚ) < 10 ^ 16 by positivity)]
  calc (10 : ℚ) ^ ((Interval.of x).top - 17) * 10 ^ 16 = 10 ^ ((Interval.of x).top - 1) := by
        rw [← zpow_natCast, ← zpow_add₀ (by norm_num)]
        congr 1
        omega
    _ ≤ (Interval.of x).value * (Interval.of x).unit := top
    _ < 10 ^ 16 * ((Interval.of x).high - (Interval.of x).low) * (Interval.of x).unit := scaled
    _ = ((Interval.of x).upper - (Interval.of x).lower) * 10 ^ 16 := by
        unfold Interval.upper Interval.lower
        ring

/-- The absolute value. -/
def magnitude (x : Decimal) : ℚ := x.coefficient * 10 ^ x.exponent

theorem strip_magnitude (coefficient : Nat) (exponent : Int) (fuel : Nat) :
    ((strip coefficient exponent fuel).1 : ℚ) * 10 ^ (strip coefficient exponent fuel).2 =
      coefficient * 10 ^ exponent := by
  induction fuel generalizing coefficient exponent with
  | zero => rfl
  | succ fuel ih =>
    unfold strip
    split
    · rename_i zero
      obtain ⟨tens, rfl⟩ := Nat.dvd_of_mod_eq_zero zero.1
      rw [ih, Nat.mul_div_cancel_left _ (by omega), zpow_add_one₀ (by norm_num)]
      push_cast
      ring
    · rfl

theorem shortest_negative (tie : Tie) (x : Binary64) :
    (shortest tie x).negative = x.negative := by
  unfold shortest
  split <;> rfl

/-- The decimal that is written for a double rounds to it. -/
theorem shortest_holds (tie : Tie) {x : Binary64} (normal : x.Normal) :
    (Interval.of x).Holds (shortest tie x).magnitude := by
  unfold shortest magnitude
  split
  · rename_i zero
    have unit := (Interval.of x).unit_pos
    refine ⟨.inr ?_, .inl ?_⟩
    · simp [Interval.lower, Interval.of, zero]
    · simpa [Interval.upper, Interval.of, zero] using unit
  · rename_i nonzero
    dsimp only
    rw [strip_magnitude]
    exact Interval.search_holds (of_proper x) (of_fine normal (Nat.pos_of_ne_zero nonzero)) 17 1
      (by omega) (by omega)

/-! ### Disjoint intervals -/

/-- The exponent counts first, then the significand. -/
def Precedes (x y : Binary64) : Prop :=
  x.exponent < y.exponent ∨ x.exponent = y.exponent ∧ x.significand < y.significand

/-- The intervals of two doubles meet in one point at most, and not if both are closed. -/
theorem upper_le_lower {x y : Binary64} (normalX : x.Normal) (normalY : y.Normal)
    (precedes : Precedes x y) :
    (Interval.of x).upper ≤ (Interval.of y).lower ∧
      ((Interval.of x).closed → (Interval.of y).closed →
        (Interval.of x).upper < (Interval.of y).lower) := by
  have bounded := normalX.bounded
  have unit := (Interval.of y).unit_pos
  have low := of_low y
  unfold Interval.upper Interval.lower
  obtain less | ⟨same, less⟩ := precedes
  · -- the greater one has all its bits, and its unit is at least twice the other
    have units : (Interval.of x).unit ≤ (Interval.of y).unit / 2 := by
      rw [of_unit, of_unit, le_div_iff₀ two_pos, div_mul_eq_mul_div, ← zpow_add_one₀ (by norm_num)]
      gcongr
      · norm_num
      · omega
    have least := normalX.least
    have leading := normalY.leading (by omega)
    have ends : (Interval.of x).high ≤ 2 * (Interval.of y).low ∧
        ((Interval.of x).closed → (Interval.of x).high < 2 * (Interval.of y).low) := by
      simp only [of_high, of_closed]
      omega
    have scaled : (Interval.of x).high * (Interval.of x).unit ≤
        (Interval.of x).high / 2 * (Interval.of y).unit := by
      rw [div_mul_comm, mul_comm]
      gcongr
    refine ⟨scaled.trans ?_, fun closedX _ => scaled.trans_lt ?_⟩
    · have touching : ((Interval.of x).high : ℚ) ≤ 2 * (Interval.of y).low := mod_cast ends.1
      gcongr
      linarith
    · have apart : ((Interval.of x).high : ℚ) < 2 * (Interval.of y).low := mod_cast ends.2 closedX
      gcongr
      linarith
  · have units : (Interval.of x).unit = (Interval.of y).unit := by rw [of_unit, of_unit, same]
    have ends : (Interval.of x).high ≤ (Interval.of y).low ∧
        ((Interval.of x).closed → (Interval.of y).closed →
          (Interval.of x).high < (Interval.of y).low) := by
      simp only [of_high, of_closed]
      omega
    rw [units]
    refine ⟨?_, fun closedX closedY => ?_⟩
    · have touching := ends.1
      gcongr
    · have apart := ends.2 closedX closedY
      gcongr

/-- A number rounds to one double of either sign only. -/
theorem eq_of_holds {x y : Binary64} (normalX : x.Normal) (normalY : y.Normal) {v : ℚ}
    (holdsX : (Interval.of x).Holds v) (holdsY : (Interval.of y).Holds v) :
    x.significand = y.significand ∧ x.exponent = y.exponent := by
  have apart {x y : Binary64} (normalX : x.Normal) (normalY : y.Normal)
      (holdsX : (Interval.of x).Holds v) (holdsY : (Interval.of y).Holds v) : ¬ Precedes x y := by
    intro precedes
    obtain ⟨touching, apart⟩ := upper_le_lower normalX normalY precedes
    obtain below | ⟨closedX, below⟩ := holdsX.below
    · obtain above | ⟨-, above⟩ := holdsY.above <;> linarith
    · obtain above | ⟨closedY, above⟩ := holdsY.above
      · linarith
      · have := apart closedX closedY
        linarith
  have forward := apart normalX normalY holdsX holdsY
  have backward := apart normalY normalX holdsY holdsX
  unfold Precedes at forward backward
  omega

end Decimal

end DatasetScript
