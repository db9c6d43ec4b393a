import DatasetScript.Checking.Arguments
import DatasetScript.Proofs.Outcome
/-!
# What calls yield

A call with a wrong number of arguments is refused; any other hands its arguments on. So it is
enough to know what comes of arguments of the right number.
-/

namespace DatasetScript

theorem query_operand {o : Operand} {q : Query} (h : o.query = .ok q) : o.expr = .ok (.query q) := by
  unfold Operand.query at h
  obtain ⟨e, checked, h⟩ := bind_ok h
  cases e with
  | query q' => rw [checked, Except.ok.inj h]
  | _ => cases h

namespace Checking

variable {function : String} {args : List Operand} {good : Operand → Prop} {p : Expr → Prop}

/-- An argument that may be left out is good if it is given. -/
def GoodIfGiven (good : Operand → Prop) (given : Option Operand) : Prop := ∀ a ∈ given, good a

theorem withArguments_yields {least most : Nat}
    {build : Needed least → (Nat → Option Operand) → Except Error Expr}
    (all : ∀ a ∈ args, good a)
    (each : ∀ needed optional, (∀ i, good (needed i)) → (∀ i, GoodIfGiven good (optional i)) →
      Yields p (build needed optional)) :
    Yields p (withArguments function least most args build) := by
  unfold withArguments
  split
  · exact each _ _ (fun i => all _ (List.getElem_mem _)) fun i a given =>
      all a (List.mem_of_getElem? given)
  · exact .error _

end Checking

end DatasetScript
