import DatasetScript.Relational.Rows
/-!
# Unions

The rows of several datasets with the same columns, one dataset after the other, in the column
order of the first.
-/

namespace DatasetScript.Query

/-- The places in `layout` of the columns of `target`, in the order of `target`. -/
def placesOf (target layout : Structure) : List Nat :=
  target.names.map fun name => (layout.indexOf? name).getD 0

/-- The place, from one, of the first operand whose columns differ from those of the first. -/
def incompatibleOperand? (layout : Structure) (operands : List Query) : Option Nat :=
  (operands.findIdx? fun q => !q.layout.isCompatibleWith layout).map (· + 1)

/-- The cells of an operand's rows, in the column order of `target`. -/
def relaidRows (target : Structure) (env : Env) (q : Query) : Except Error (List (List Value)) := do
  let d ← q.run env
  return d.rows.map (·.pick (placesOf target q.layout))

def union : List Query → Except Error Query
  | [] => .error (.structureMismatch .emptyUnion)
  | first :: rest =>
    let operands := first :: rest
    match incompatibleOperand? first.layout operands with
    | some place => .error (.structureMismatch (.operandDiffers place))
    | none => .ok ⟨first.layout, fun env => do
        let parts ← operands.mapM (relaidRows first.layout env)
        layRows first.layout parts.flatten⟩

end DatasetScript.Query
