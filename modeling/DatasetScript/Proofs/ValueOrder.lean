import DatasetScript.Data.Value
import Mathlib.Order.Basic
/-!
# The order of values

Integers, truth values and texts are each ordered in one line, so that values of one of these types
that compare equal are the same. Main statements: `exists_order` and `compare_eq_iff`.
-/

namespace DatasetScript

/-- Comparing payloads of a type other than Number is a total order on them. -/
theorem exists_order {t : ScalarType} (exact : t ≠ .number) :
    ∃ order : t.Carrier → t.Carrier → Ordering, Std.TransCmp order ∧ Std.LawfulEqCmp order ∧
      ∀ a b, (Value.scalar t a).compare? (.scalar t b) = some (order a b) := by
  cases t with
  | integer =>
    refine ⟨compareOn Int64.toInt, inferInstance, ⟨fun {a b} equal => ?_⟩, fun _ _ => rfl⟩
    exact Int64.toInt_inj.mp (Std.compare_eq_iff_eq.mp equal)
  | number => exact (exact rfl).elim
  | boolean =>
    refine ⟨compareOn Bool.toNat, inferInstance, ⟨fun {a b} => ?_⟩, fun _ _ => rfl⟩
    revert a b
    decide
  | string => exact ⟨compare, inferInstance, inferInstance, fun _ _ => rfl⟩

theorem scalar_inj {t : ScalarType} {a b : t.Carrier} (same : Value.scalar t a = .scalar t b) :
    a = b := by
  cases t <;> cases same <;> rfl

theorem compare_eq_iff {t : ScalarType} (exact : t ≠ .number) (a b : t.Carrier) :
    (Value.scalar t a).compare? (.scalar t b) = some .eq ↔ Value.scalar t a = .scalar t b := by
  obtain ⟨order, -, lawful, compared⟩ := exists_order exact
  rw [compared, Option.some_inj, Std.LawfulEqCmp.compare_eq_iff_eq]
  exact ⟨congrArg _, scalar_inj⟩

end DatasetScript
