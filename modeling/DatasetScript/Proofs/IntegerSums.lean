import DatasetScript.Checking.Operators
import DatasetScript.Semantics.Aggregation
import DatasetScript.Proofs.Outcome
import Mathlib.Algebra.BigOperators.Group.List.Basic
import Mathlib.Algebra.Ring.Int.Defs
import Mathlib.Data.List.Infix
/-!
# Sums of integers

A sum of integers is exact or NULL. It is NULL as soon as the total of the rows so far does not fit,
even if later rows bring the total back, and it is NULL where there is nothing to add. So the order
of the rows matters only in whether all totals on the way fit. Main statement: `integer_sum`.
-/

namespace DatasetScript

/-! ### Totals on the way -/

def exactTotal (terms : List Int64) : Int := (terms.map Int64.toInt).sum

/-- The totals of all terms so far fit, at every term. -/
def RunningTotalsFit (terms : List Int64) : Prop :=
  ∀ before, before <+: terms → FitsInt64 (exactTotal before)

instance (terms : List Int64) : Decidable (RunningTotalsFit terms) :=
  decidable_of_iff (∀ before ∈ terms.inits, FitsInt64 (exactTotal before))
    (forall_congr' fun before => by rw [List.mem_inits])

theorem exactTotal_concat (terms : List Int64) (n : Int64) :
    exactTotal (terms ++ [n]) = exactTotal terms + n.toInt := by
  simp [exactTotal]

theorem exactTotal_perm {terms terms' : List Int64} (perm : terms.Perm terms') :
    exactTotal terms = exactTotal terms' := (perm.map Int64.toInt).sum_eq

theorem runningTotalsFit_nil : RunningTotalsFit [] := by
  intro before h
  rw [List.prefix_nil.mp h]
  decide

theorem runningTotalsFit_concat (terms : List Int64) (n : Int64) :
    RunningTotalsFit (terms ++ [n]) ↔
      RunningTotalsFit terms ∧ FitsInt64 (exactTotal terms + n.toInt) := by
  rw [← exactTotal_concat]
  constructor
  · intro fits
    refine ⟨fun before h => fits before (h.trans (List.prefix_append terms [n])), ?_⟩
    exact fits _ List.prefix_rfl
  · rintro ⟨fits, last⟩ before h
    rcases List.prefix_concat_iff.mp h with rfl | earlier
    · exact last
    · exact fits before earlier

namespace IntegerTotal

theorem add_of_some {s : IntegerTotal} {n total : Int64}
    (next : Checked.add s.total n = some total) : s.add (.integer n) = { s with total } := by
  simp [add, next]

theorem add_of_none {s : IntegerTotal} {n : Int64} (next : Checked.add s.total n = none) :
    s.add (.integer n) = { s with overflowed := true } := by
  simp [add, next]

/-- The state after some terms: the flag is down just if all totals so far fit, and then the total is
exact. -/
structure Follows (s : IntegerTotal) (terms : List Int64) : Prop where
  flag : s.overflowed = false ↔ RunningTotalsFit terms
  exact : RunningTotalsFit terms → s.total.toInt = exactTotal terms

theorem zero_follows : zero.Follows [] := ⟨⟨fun _ => runningTotalsFit_nil, fun _ => rfl⟩, fun _ => rfl⟩

/-- A flag that is up stays up. -/
theorem add_overflowed {s : IntegerTotal} (raised : s.overflowed = true) (n : Int64) :
    (s.add (.integer n)).overflowed = true := by
  cases next : Checked.add s.total n with
  | some total => rw [add_of_some next, raised]
  | none => rw [add_of_none next]

theorem follows_of_overflowed {s : IntegerTotal} {terms : List Int64} (raised : s.overflowed = true)
    (large : ¬ RunningTotalsFit terms) : s.Follows terms :=
  ⟨⟨fun down => (Bool.false_ne_true (down.symm.trans raised)).elim, fun fits => (large fits).elim⟩,
    fun fits => (large fits).elim⟩

theorem add_follows {s : IntegerTotal} {terms : List Int64} (h : s.Follows terms) (n : Int64) :
    (s.add (.integer n)).Follows (terms ++ [n]) := by
  have both := runningTotalsFit_concat terms n
  by_cases fits : RunningTotalsFit terms
  · have next : Checked.add s.total n = toInt64? (exactTotal terms + n.toInt) := by
      rw [Checked.add, h.exact fits]
    cases made : toInt64? (exactTotal terms + n.toInt) with
    | some total =>
      have value := toInt64?_eq_some_iff.mp made
      have more : RunningTotalsFit (terms ++ [n]) :=
        both.mpr ⟨fits, Decidable.of_not_not fun large => by simp [toInt64?, large] at made⟩
      rw [add_of_some (next.trans made)]
      exact ⟨⟨fun _ => more, fun _ => h.flag.mpr fits⟩,
        fun _ => value.trans (exactTotal_concat terms n).symm⟩
    | none =>
      rw [add_of_none (next.trans made)]
      exact follows_of_overflowed rfl fun more => toInt64?_eq_none_iff.mp made (both.mp more).2
  · have raised : s.overflowed = true := by
      rw [← Bool.not_eq_false, h.flag]
      exact fits
    exact follows_of_overflowed (add_overflowed raised n) fun more => fits (both.mp more).1

theorem fold_follows (terms : List Int64) :
    ((terms.map Value.integer).foldl add zero).Follows terms := by
  induction terms using List.reverseRecOn with
  | nil => exact zero_follows
  | append_singleton terms n ih =>
    rw [List.map_append, List.foldl_append]
    exact add_follows ih n

end IntegerTotal

/-! ### Sums of values -/

def Value.integer? : Value → Option Int64
  | .integer n => some n
  | _ => none

/-- The integers among some values. -/
def integersOf (values : List Value) : List Int64 := values.filterMap Value.integer?

/-- NULL or an integer. -/
def Value.Integral (v : Value) : Prop := v = .null ∨ ∃ n, v = .integer n

theorem present_integers {values : List Value} (integral : ∀ v ∈ values, v.Integral) :
    values.filter (!·.isNull) = (integersOf values).map .integer := by
  induction values with
  | nil => rfl
  | cons v rest ih =>
    have ih := ih fun w later => integral w (List.mem_cons_of_mem v later)
    rcases integral v List.mem_cons_self with rfl | ⟨n, rfl⟩
    · exact ih
    · exact congrArg (Value.integer n :: ·) ih

theorem integral_of_typed {e : Expr} (typed : e.type? = some .integer) {env : Env} {v : Value}
    (resolved : e.resolve env = .ok v) : v.Integral := by
  obtain ⟨payload, rfl⟩ := Expr.exists_payload typed resolved
  cases payload with
  | none => exact .inl rfl
  | some n => exact .inr ⟨n, rfl⟩

theorem summary_sum {values : List Value} (integral : ∀ v ∈ values, v.Integral) :
    (integersOf values ≠ [] ∧ RunningTotalsFit (integersOf values) →
        ∃ total, Aggregation.summary .sum .integer (values.filter (!·.isNull)) = .integer total ∧
          total.toInt = exactTotal (integersOf values)) ∧
      (integersOf values = [] ∨ ¬ RunningTotalsFit (integersOf values) →
        Aggregation.summary .sum .integer (values.filter (!·.isNull)) = .null) := by
  rw [present_integers integral]
  generalize integersOf values = terms
  have follows := IntegerTotal.fold_follows terms
  unfold Aggregation.summary
  dsimp only
  rw [if_pos rfl, List.isEmpty_map]
  constructor
  · rintro ⟨some_term, fits⟩
    have given : terms.isEmpty = false := by simpa using some_term
    refine ⟨_, ?_, follows.exact fits⟩
    rw [given, follows.flag.mpr fits]
    rfl
  · rintro (rfl | large)
    · rfl
    · have raised : ((terms.map Value.integer).foldl IntegerTotal.add .zero).overflowed = true := by
        rw [← Bool.not_eq_false, follows.flag]
        exact large
      rw [raised]
      cases terms.isEmpty <;> rfl

/-- Sums of the same terms in two orders differ just if one of them has a total on the way that does
not fit and the other has none. -/
theorem summary_sum_eq_iff {values values' : List Value} (integral : ∀ v ∈ values, v.Integral)
    (integral' : ∀ v ∈ values', v.Integral) (perm : values.Perm values') :
    Aggregation.summary .sum .integer (values.filter (!·.isNull)) =
        Aggregation.summary .sum .integer (values'.filter (!·.isNull)) ↔
      integersOf values = [] ∨
        (RunningTotalsFit (integersOf values) ↔ RunningTotalsFit (integersOf values')) := by
  obtain ⟨exact, missing⟩ := summary_sum integral
  obtain ⟨exact', missing'⟩ := summary_sum integral'
  have terms : (integersOf values).Perm (integersOf values') := perm.filterMap _
  by_cases empty : integersOf values = []
  · have empty' : integersOf values' = [] := (empty ▸ terms).symm.eq_nil
    rw [missing (.inl empty), missing' (.inl empty')]
    simp [empty]
  · have some_term : integersOf values' ≠ [] := fun empty' => empty (empty' ▸ terms).eq_nil
    by_cases fits : RunningTotalsFit (integersOf values) <;>
      by_cases fits' : RunningTotalsFit (integersOf values')
    · obtain ⟨total, sum, value⟩ := exact ⟨empty, fits⟩
      obtain ⟨total', sum', value'⟩ := exact' ⟨some_term, fits'⟩
      have equal : total = total' :=
        Int64.toInt_inj.mp (value.trans ((exactTotal_perm terms).trans value'.symm))
      simp [sum, sum', equal, fits, fits']
    · obtain ⟨total, sum, -⟩ := exact ⟨empty, fits⟩
      simp [sum, missing' (.inr fits'), empty, fits, fits']
    · obtain ⟨total, sum, -⟩ := exact' ⟨some_term, fits'⟩
      simp [missing (.inr fits), sum, empty, fits, fits']
    · simp [missing (.inr fits), missing' (.inr fits'), fits, fits']

/-! ### Main statement -/

/-- The values of an operand in some rows. -/
def Expr.valuesIn (e : Expr) (rows : List Row) : Except Error (List Value) :=
  rows.mapM fun r => e.resolve r.env

theorem collect_sum (e : Expr) (rows : List Row) :
    Aggregation.collect ⟨.sum, some e, .integer⟩ rows = (e.valuesIn rows >>= fun values =>
      .ok (Aggregation.summary .sum .integer (values.filter (!·.isNull)))) := rfl

theorem integral_valuesIn {e : Expr} (typed : e.type? = some .integer) {rows : List Row}
    {values : List Value} (h : e.valuesIn rows = .ok values) : ∀ v ∈ values, v.Integral := by
  intro v member
  obtain ⟨r, -, resolved⟩ := mapM_member h member
  exact integral_of_typed typed resolved

/-- The sum of an integer operand is accepted, and fails just as the operand does. It is the exact total
of the values other than NULL if there are any and all totals on the way fit, and NULL otherwise. In
another order of the rows the sum is the same if and only if there is nothing to add or the totals
on the way fit in both orders or in neither. -/
theorem integer_sum {e : Expr} (typed : e.type? = some .integer) :
    ∃ a, Aggregation.ofOperand .sum (some e) = .ok a ∧
      (∀ rows error, e.valuesIn rows = .error error → a.collect rows = .error error) ∧
      (∀ rows values, e.valuesIn rows = .ok values → (∀ v ∈ values, v.Integral) ∧
        (integersOf values ≠ [] ∧ RunningTotalsFit (integersOf values) →
          ∃ total, a.collect rows = .ok (.integer total) ∧
            total.toInt = exactTotal (integersOf values)) ∧
        (integersOf values = [] ∨ ¬ RunningTotalsFit (integersOf values) →
          a.collect rows = .ok .null)) ∧
      ∀ rows rows' values values', rows.Perm rows' → e.valuesIn rows = .ok values →
        e.valuesIn rows' = .ok values' →
          (a.collect rows = a.collect rows' ↔ integersOf values = [] ∨
            (RunningTotalsFit (integersOf values) ↔ RunningTotalsFit (integersOf values'))) := by
  have accepted : Aggregation.ofOperand .sum (some e) = .ok ⟨.sum, some e, .integer⟩ := by
    simp [Aggregation.ofOperand, typed, DataType.isNumeric]
  refine ⟨⟨.sum, some e, .integer⟩, accepted, fun rows error failed => ?_,
    fun rows values given => ⟨integral_valuesIn typed given, ?_⟩,
    fun rows rows' values values' perm given given' => ?_⟩
  · rw [collect_sum, failed, error_bind]
  · rw [collect_sum, given, ok_bind]
    obtain ⟨exact, missing⟩ := summary_sum (integral_valuesIn typed given)
    refine ⟨fun fits => ?_, fun large => congrArg Except.ok (missing large)⟩
    obtain ⟨total, sum, value⟩ := exact fits
    exact ⟨total, congrArg Except.ok sum, value⟩
  · rw [collect_sum, collect_sum, given, given', ok_bind, ok_bind, Except.ok.injEq]
    exact summary_sum_eq_iff (integral_valuesIn typed given) (integral_valuesIn typed given')
      (mapM_perm perm given given')

namespace Overflow

def column : Structure := ⟨[⟨"x", .integer, .measure⟩], by decide⟩

def row (n : Int64) : Row := ⟨column, [.integer n]⟩

/-- The column of the rows. -/
def x : Expr := .scalar .integer (.ofValues .integer (Checking.boundValue "x"))

/-- Rows whose running total leaves the range and comes back. -/
def leaving : List Row := [row Int64.maxValue, row 1, row (-1)]

/-- The same rows in another order. -/
def staying : List Row := [row Int64.maxValue, row (-1), row 1]

end Overflow

open Overflow in
theorem staying_total :
    x.type? = some .integer ∧ ∃ a total, Aggregation.ofOperand .sum (some x) = .ok a ∧
      a.collect staying = .ok (.integer total) ∧ total.toInt = 9223372036854775807 := by
  obtain ⟨a, accepted, -, sums, -⟩ := integer_sum (e := x) rfl
  obtain ⟨-, exact, -⟩ :=
    sums staying [.integer Int64.maxValue, .integer (-1), .integer 1] rfl
  obtain ⟨total, collected, value⟩ := exact (by decide)
  exact ⟨rfl, a, total, accepted, collected, value.trans (by decide)⟩

open Overflow in
/-- The total of the rows fits, and yet their sum is NULL in one order and the total in another. -/
theorem leaving_total_null :
    x.valuesIn leaving = .ok [.integer Int64.maxValue, .integer 1, .integer (-1)] ∧
      FitsInt64 (exactTotal [Int64.maxValue, 1, -1]) ∧ leaving.Perm staying ∧
      Aggregation.ofOperand .sum (some x) = .ok ⟨.sum, some x, .integer⟩ ∧
      Aggregation.collect ⟨.sum, some x, .integer⟩ leaving = .ok .null ∧
      Aggregation.collect ⟨.sum, some x, .integer⟩ staying = .ok (.integer Int64.maxValue) :=
  ⟨rfl, by decide, .cons _ (.swap _ _ _), rfl, rfl, rfl⟩

end DatasetScript
