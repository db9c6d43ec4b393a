import DatasetScript.Checking.TextFunctions
import DatasetScript.Proofs.Outcome
/-!
# Safe outcomes

An expression that has been checked fails only for reasons that its type does not tell: a negative
length, an occurrence that is not positive, or a pattern that cannot be read. A computation is safe
if it fails at most for these reasons. Main statements: `Safe.bind` and `Safe.mapM`.
-/

namespace DatasetScript

variable [PatternLanguage]

/-- The causes of failure that remain after checking. -/
def Cause.Inherent : Cause → Prop
  | .resolutionFailure (.negativeLength length) => length.toInt < 0
  | .resolutionFailure (.occurrenceNotPositive occurrence) => occurrence.toInt < 1
  | .resolutionFailure (.invalidPattern pattern) =>
    PatternLanguage.compile? pattern = none ∨
      PatternLanguage.compile? (Pattern.wholeText pattern) = none
  | _ => False

/-- The computation gives what is asked for, or fails for an inherent cause. -/
def Safe {α : Type} (post : α → Prop) : Except Error α → Prop
  | .ok a => post a
  | .error e => e.cause.Inherent

variable {α β : Type} {p : α → Prop} {q : β → Prop} {x : Except Error α}

namespace Safe

theorem pure {a : α} (h : p a) : Safe p (Pure.pure a) := h

theorem bind {f : α → Except Error β} (first : Safe p x) (later : ∀ a, p a → Safe q (f a)) :
    Safe q (x >>= f) := by
  cases x with
  | error e => exact first
  | ok a => exact later a first

theorem map {f : α → β} (h : Safe p x) (later : ∀ a, p a → q (f a)) : Safe q (x.map f) := by
  cases x with
  | error e => exact h
  | ok a => exact later a h

theorem mono {p' : α → Prop} (h : Safe p x) (weaker : ∀ a, p a → p' a) : Safe p' x := by
  cases x with
  | error e => exact h
  | ok a => exact weaker a h

theorem locate {position : Option Position} (h : Safe p x) : Safe p (locate position x) := by
  cases x with
  | error e => exact h
  | ok a => exact h

/-- A list is mapped item by item. -/
theorem mapM {f : α → Except Error β} {xs : List α} {r : α → β → Prop}
    (each : ∀ a ∈ xs, Safe (r a) (f a)) : Safe (List.Forall₂ r xs) (xs.mapM f) := by
  induction xs with
  | nil => exact List.Forall₂.nil
  | cons a rest ih =>
    rw [List.mapM_cons]
    refine bind (each a List.mem_cons_self) fun b first => ?_
    refine bind (ih fun c member => each c (List.mem_cons_of_mem a member)) fun bs others => ?_
    exact List.Forall₂.cons first others

/-- What holds of the result for each item holds of all results. -/
theorem mapM_all {f : α → Except Error β} {xs : List α} (each : ∀ a ∈ xs, Safe q (f a)) :
    Safe (fun bs => ∀ b ∈ bs, q b) (xs.mapM f) := by
  refine (mapM fun a member => each a member).mono fun bs made b member => ?_
  obtain ⟨i, bound, rfl⟩ := List.getElem_of_mem member
  exact made.get (by rwa [made.length_eq]) bound

end Safe

end DatasetScript
