import DatasetScript.Checking.Arguments
import DatasetScript.Number.Integer
import DatasetScript.Number.Real
/-!
# Functions on numbers

Where a function is not defined, or its result is not finite or does not fit, the result is NULL.
-/

namespace DatasetScript.Checking

/-- Rounds to an integer. Integers stay as they are. -/
def toWhole (function : String) (args : List Operand) (rule : Float → Float) :
    Except Error Expr :=
  withArguments function 1 1 args fun needed _ => do
    match ← needed.first.numeric with
    | .integer f => return .scalar .integer f
    | .number f => return .scalar .integer (f.map fun x => Real.toInteger (rule x))

def absolute (args : List Operand) : Except Error Expr :=
  withArguments "abs" 1 1 args fun needed _ => do
    match ← needed.first.numeric with
    | .integer f => return .scalar .integer (f.map Checked.abs)
    | .number f => return .scalar .number (f.map fun x => some x.abs)

def realMap (function : String) (args : List Operand) (g : Float → Option Float) :
    Except Error Expr :=
  mapCall function args Operand.real .number g

def realZip (function : String) (args : List Operand) (g : Float → Float → Option Float) :
    Except Error Expr :=
  zipCall function args Operand.real .number g

/-- Rounds to a number of decimal places, none unless it is given. -/
def roundCall (function : String) (args : List Operand) (rule : Float → Float) :
    Except Error Expr :=
  withArguments function 1 2 args fun needed optional => do
    let x ← needed.first.real
    let places ← Operand.formulaOr .integer 0 (optional 0)
    let resolved : Formula .number := fun env => do
      let x ← x env
      let places ← places env
      match x, places with
      | some x, some places => return Real.roundTo x places rule
      | _, _ => return none
    return .scalar .number resolved

def modulo (args : List Operand) : Except Error Expr :=
  withArguments "mod" 2 2 args fun needed _ => do
    match ← needed.first.numeric, ← needed.second.numeric with
    | .integer x, .integer y => return .scalar .integer (x.zip y Checked.rem)
    | x, y =>
      return .scalar .number (x.toNumber.zip y.toNumber fun x y =>
        if y == 0 then none else some (Real.remainder x y))

def numericFunction (function : String) (args : List Operand) : Except Error Expr :=
  match function with
  | "ceil" => toWhole function args Float.ceil
  | "floor" => toWhole function args Float.floor
  | "abs" => absolute args
  | "exp" => realMap function args fun x => Real.finite x.exp
  | "ln" => realMap function args fun x => if x > 0 then Real.finite x.log else none
  | "sqrt" => realMap function args fun x => if x ≥ 0 then some x.sqrt else none
  | "round" => roundCall function args Float.round
  | "trunc" => roundCall function args Real.trunc
  | "mod" => modulo args
  | "power" => realZip function args fun x y => Real.finite (x.pow y)
  | "log" => realZip function args Real.logarithm
  | _ => .error (.unsupportedOperator function)

end DatasetScript.Checking
