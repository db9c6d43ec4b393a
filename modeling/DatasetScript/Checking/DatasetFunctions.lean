import DatasetScript.Checking.Arguments
import DatasetScript.Relational.Join
import DatasetScript.Relational.Union
/-!
# Unions and joins

The functions that combine datasets. The datasets of a join go by their aliases, and are matched by
named key columns or by the identifiers that they have in common.
-/

namespace DatasetScript.Checking

/-! ### Unions -/

/-- Refuses the first argument whose columns differ from those of the first one. -/
def checkArguments (first : Operand) (layout : Structure) :
    List (Operand × Query) → Except Error Unit
  | [] => .ok ()
  | (a, q) :: rest =>
    if q.layout.isCompatibleWith layout then checkArguments first layout rest
    else .error ⟨.structureMismatch (.argumentDiffers a.text first.text), a.position⟩

def unionCall (args : List Operand) : Except Error Expr :=
  match args with
  | [] => refuseCount "union" (.atLeast 1) []
  | first :: rest => do
    let q ← first.query
    let others ← rest.mapM Operand.query
    checkArguments first q.layout (rest.zip others)
    return .query (← Query.union (q :: others))

def setFunction (function : String) (args : List Operand) : Except Error Expr :=
  match function with
  | "union" => unionCall args
  | _ => .error (.unsupportedOperator function)

/-! ### Joins -/

/-- The name of a dataset in a join: its alias, or else its text. -/
def joinName (label : Option String) (node : Node) : String := label.getD node.text

/-- The datasets of a join with their names, which must differ. -/
def joinOperands (taken : List String) :
    List (Option String × Operand) → Except Error (List (String × Query))
  | [] => .ok []
  | (label, operand) :: rest => do
    let name := joinName label operand.node
    let q ← operand.query
    if name ∈ taken then .error ⟨.structureMismatch (.aliasTwice name), operand.position⟩
    else return (name, q) :: (← joinOperands (name :: taken) rest)

/-- The identifiers of the first dataset that all the others have too. -/
def commonIdentifiers : List Structure → List Component
  | [] => []
  | first :: rest => first.identifiers.filter fun c => rest.all fun s => s.get? c.name == some c

/-- The key columns of a join, named ones as the first dataset has them. -/
def keyComponents (kind : JoinKind) (layouts : List Structure) (keys : List String) :
    Except Error (List Component) :=
  match kind, layouts, keys with
  | .cross, _, _ => .ok []
  | _, layouts, [] => .ok (commonIdentifiers layouts)
  | _, first :: _, keys => keys.mapM first.column
  | _, [], _ => .ok []

def join (kind : JoinKind) (operands : List (Option String × Operand)) (keys : List String) :
    Except Error Expr := do
  if operands.isEmpty then .error (.argumentCount kind.name (.atLeast 1) 0)
  else
    let datasets ← joinOperands [] operands
    let components ← keyComponents kind (datasets.map (·.2.layout)) keys
    return .query (← Query.join kind datasets components)

end DatasetScript.Checking
