/-!
# Integers of 64 bits

Arithmetic on 64-bit integers that gives nothing where the exact result does not fit. Main
statement: `toInt64?_eq_some_iff` says that the result, where there is one, is exact.
-/

namespace DatasetScript

/-- Whether an integer has 64 bits, one of them for its sign. -/
abbrev FitsInt64 (n : Int) : Prop := -9223372036854775808 ≤ n ∧ n < 9223372036854775808

/-- The 64-bit integer with a given value. -/
def toInt64? (n : Int) : Option Int64 :=
  if FitsInt64 n then some (Int64.ofInt n) else none

theorem toInt_ofInt {n : Int} (h : FitsInt64 n) : (Int64.ofInt n).toInt = n :=
  Int64.toInt_ofInt_of_le (by omega) (by omega)

theorem toInt64?_eq_some_iff {n : Int} {i : Int64} : toInt64? n = some i ↔ i.toInt = n := by
  unfold toInt64?
  constructor
  · intro h
    split at h
    · rename_i fits
      obtain rfl := Option.some.inj h
      exact toInt_ofInt fits
    · cases h
  · rintro rfl
    have low := Int64.le_toInt i
    have high := Int64.toInt_lt i
    rw [if_pos (by omega), Int64.ofInt_toInt]

theorem toInt64?_toInt (i : Int64) : toInt64? i.toInt = some i :=
  toInt64?_eq_some_iff.2 rfl

theorem toInt64?_eq_none_iff {n : Int} : toInt64? n = none ↔ ¬ FitsInt64 n := by
  simp [toInt64?]

namespace Checked

def add (a b : Int64) : Option Int64 := toInt64? (a.toInt + b.toInt)

def sub (a b : Int64) : Option Int64 := toInt64? (a.toInt - b.toInt)

def mul (a b : Int64) : Option Int64 := toInt64? (a.toInt * b.toInt)

def neg (a : Int64) : Option Int64 := toInt64? (-a.toInt)

def abs (a : Int64) : Option Int64 := toInt64? a.toInt.natAbs

/-- The remainder of the division that truncates. It is missing where the quotient is. -/
def rem (a b : Int64) : Option Int64 :=
  if b.toInt = 0 then none
  else (toInt64? (a.toInt.tdiv b.toInt)).bind fun _ => toInt64? (a.toInt.tmod b.toInt)

end Checked

end DatasetScript
