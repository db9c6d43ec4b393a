import DatasetScript.Relational.Aggregate
/-!
# Clauses

Clauses apply an operation to a dataset. The expressions in a clause are about the rows of the
dataset, and names in them stand for its columns.
-/

namespace DatasetScript.Checking

structure Calculation where
  name : String
  role : Option Role
  operand : Operand

structure Collection where
  name : String
  role : Option Role
  function : AggregateFunction
  operand : Option Operand

/-- The expression of a calculated column. NULL takes the type of the column that it replaces. -/
def calculation (layout : Structure) (c : Calculation) : Except Error Expr := do
  let e ← c.operand.expr
  if e.isNull then
    match layout.get? c.name with
    | some component => Expr.typedNull component.type
    | none =>
      .error ⟨.typeMismatch .typed (.type none) ("calc " ++ c.name ++ " := " ++ c.operand.text),
        c.operand.position⟩
  else return e

/-- The calculated columns with their expressions, no column twice. -/
def calculations (layout : Structure) (taken : List String) :
    List Calculation → Except Error (List (String × Expr))
  | [] => .ok []
  | c :: rest => do
    let e ← calculation layout c
    if c.name ∈ taken then .error (.structureMismatch (.calculatedTwice c.name))
    else return (c.name, e) :: (← calculations layout (c.name :: taken) rest)

def calculate (input : Query) (items : List Calculation) : Except Error Query := do
  let expressions ← calculations input.layout [] items
  input.calculate expressions (items.filterMap fun c => c.role.map (c.name, ·))

def filter (input : Query) (predicate : Operand) : Except Error Query := do
  return input.filter (← predicate.formula .boolean)

def rename (input : Query) (items : List RenameItem) : Except Error Query :=
  match firstRepeat? [] (items.map (·.source)) with
  | some name => .error (.structureMismatch (.renamedTwice name))
  | none => input.rename (items.map fun item => (item.source, item.target))

/-- Keeps the columns that are not named. All named columns must be there. -/
def drop (input : Query) (names : List String) : Except Error Query :=
  match names.find? fun name => !input.layout.contains name with
  | some name => .error (.unknownColumn name)
  | none => input.project (input.layout.names.filter fun name => name ∉ names)

def collection (c : Collection) : Except Error (Component × Aggregation) := do
  let operand ← c.operand.mapM Operand.expr
  let a ← locate (c.operand.bind Operand.position) (Aggregation.ofOperand c.function operand)
  return (⟨c.name, a.type, c.role.getD .measure⟩, a)

/-- Groups by the named columns, which become identifiers. -/
def aggregate (input : Query) (items : List Collection) (groupBy : List String) :
    Except Error Query := do
  let groups ← groupBy.mapM input.layout.column
  let columns ← items.mapM collection
  let identifiers := groups.map fun c => { c with role := .identifier }
  let output ← Structure.ofComponents (identifiers ++ columns.map (·.1))
  let places ← groupBy.mapM input.layout.place
  input.aggregate output (columns.map fun (c, a) => (c.name, a)) (·.pick places)

end DatasetScript.Checking
