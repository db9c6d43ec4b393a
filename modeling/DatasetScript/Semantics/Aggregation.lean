import DatasetScript.Semantics.Expr
import DatasetScript.Number.Integer
/-!
# Aggregations

An aggregate function with an operand resolved against each row of a group. NULL is passed over by
every function; a group without other values gives NULL, and zero as its count.
-/

namespace DatasetScript

structure Aggregation where
  function : AggregateFunction
  operand : Option Expr
  type : DataType

/-- Running total that keeps the last total which fitted, and whether one did not fit. -/
structure IntegerTotal where
  total : Int64
  overflowed : Bool

namespace IntegerTotal

def zero : IntegerTotal := ⟨0, false⟩

def add (s : IntegerTotal) : Value → IntegerTotal
  | .integer n =>
    match Checked.add s.total n with
    | some total => { s with total }
    | none => { s with overflowed := true }
  | _ => s

end IntegerTotal

namespace Aggregation

/-- Checks the operand and finds the type of the result. -/
def ofOperand (function : AggregateFunction) (operand : Option Expr) :
    Except Error Aggregation :=
  let type? := operand.bind Expr.type?
  let result (t : DataType) : Except Error Aggregation := .ok ⟨function, operand, t⟩
  let refuse (expected : Shape) : Except Error Aggregation :=
    .error (.typeMismatch expected (.type type?) function.name)
  if function = .count then result .integer
  else if operand.isNone then .error (.argumentCount function.name (.exactly 1) 0)
  else
    match function, type? with
    | .count, _ => result .integer
    | .sum, none => result .integer
    | .sum, some t => if t.isNumeric then result t else refuse .numeric
    | .avg, none => result .number
    | .avg, some t => if t.isNumeric then result .number else refuse .numeric
    | .min, none | .max, none => result .integer
    | .min, some t | .max, some t => if t = .dataset then refuse .scalar else result t

/-- The value of the operand at a row. Without an operand rows themselves are counted. -/
def valueAt (a : Aggregation) (r : Row) : Except Error Value :=
  match a.operand with
  | some e => e.resolve r.env
  | none => .ok (.boolean true)

def realTotal (values : List Value) : Float :=
  values.foldl (fun total v => total + v.asNumber?.getD 0) 0

/-- The first value that no other comes before in the given order. -/
def extreme (order : Ordering) : List Value → Value
  | [] => .null
  | v :: rest =>
    rest.foldl (fun best w => if w.compare? best = some order then w else best) v

/-- The result for the values of a group that are not NULL. -/
def summary (function : AggregateFunction) (type : DataType) (values : List Value) : Value :=
  match function with
  | .count => .integer (.ofNat values.length)
  | .sum =>
    if values.isEmpty then .null
    else if type = .integer then
      let s := values.foldl IntegerTotal.add .zero
      if s.overflowed then .null else .integer s.total
    else .number (realTotal values)
  | .avg =>
    if values.isEmpty then .null
    else .number (realTotal values / (Int64.ofNat values.length).toFloat)
  | .min => extreme .lt values
  | .max => extreme .gt values

def collect (a : Aggregation) (rows : List Row) : Except Error Value := do
  let values ← rows.mapM a.valueAt
  return summary a.function a.type (values.filter (!·.isNull))

end Aggregation

end DatasetScript
