import DatasetScript.Checking.TextFunctions
/-!
# Comparing functions

Ranges, patterns and the test for NULL.
-/

namespace DatasetScript.Checking

/-- Refuses a bound that the operand cannot be compared with. -/
def checkBound (operand : Expr) (context : String) (bound : Expr) (node : Node) :
    Except Error Unit :=
  if comparable operand.type? bound.type? then .ok ()
  else .error ⟨.typeMismatch (.type operand.type?) (.type bound.type?) context, node.position⟩

/-- Whether a value lies within two bounds, unless one of them is not ordered with it. -/
def isBetween (v low high : Value) : Option Bool :=
  match v.compare? low, v.compare? high with
  | some l, some h => some (l != .lt && h != .gt)
  | _, _ => none

def between (args : List Operand) : Except Error Expr :=
  withArguments "between" 3 3 args fun needed _ => do
    let a := needed.first
    let b := needed.second
    let c := needed.third
    let operand ← a.expr
    let low ← b.expr
    let high ← c.expr
    let context := "between(" ++ a.text ++ ", " ++ b.text ++ ", " ++ c.text ++ ")"
    checkBound operand context low b.node
    checkBound operand context high c.node
    let resolved : Formula .boolean := fun env => do
      let v ← operand.resolve env
      let l ← low.resolve env
      let h ← high.resolve env
      return isBetween v l h
    return .scalar .boolean resolved

def nullTest (args : List Operand) : Except Error Expr :=
  withArguments "isnull" 1 1 args fun needed _ => do
    let a := needed.first
    let operand ← a.expr
    if operand.type? = some .dataset then
      .error ⟨.typeMismatch .scalar (.type operand.type?) ("isnull(" ++ a.text ++ ")"),
        a.position⟩
    else
      let resolved : Formula .boolean := fun env => do
        return some (← operand.resolve env).isNull
      return .scalar .boolean resolved

def comparisonFunction [PatternLanguage] (function : String) (args : List Operand) :
    Except Error Expr :=
  match function with
  | "between" => between args
  | "match_characters" => matchCall args
  | "isnull" => nullTest args
  | _ => .error (.unsupportedOperator function)

end DatasetScript.Checking
