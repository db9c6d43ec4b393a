import DatasetScript.Semantics.Expr
import DatasetScript.Syntax.Printer
/-!
# Operands

An operand is a node with the outcome of checking it. Operators and functions ask their operands,
in order, for what they need; the NULL literal turns into NULL of the type asked for. A refusal
reports the text and the position of the operand.
-/

namespace DatasetScript

/-- An expression in the role of a number. -/
inductive Numeric where
  | integer (f : Formula .integer)
  | number (f : Formula .number)

namespace Numeric

def toNumber : Numeric → Formula .number
  | integer f => f.map fun i => some i.toFloat
  | number f => f

def isInteger : Numeric → Bool
  | integer _ => true
  | number _ => false

def toExpr : Numeric → Expr
  | integer f => .scalar .integer f
  | number f => .scalar .number f

end Numeric

namespace Expr

def mismatch (expected : Shape) (e : Expr) (node : Node) : Error :=
  ⟨.typeMismatch expected (.type e.type?) node.text, node.position⟩

/-- The expression itself, if it has the type. -/
def asType (t : DataType) (e : Expr) (node : Node) : Except Error Expr :=
  match e.type? with
  | none => if t = .dataset then .error (mismatch (.type (some t)) e node) else typedNull t
  | some actual =>
    if actual = t then .ok e else .error (mismatch (.type (some t)) e node)

def asFormula (t : ScalarType) (e : Expr) (node : Node) : Except Error (Formula t) :=
  match e with
  | null => .ok .null
  | scalar u f =>
    if h : u = t then .ok (h ▸ f)
    else .error (mismatch (.type (some (.scalar t))) (scalar u f) node)
  | query q => .error (mismatch (.type (some (.scalar t))) (query q) node)

/-- The NULL literal counts as an integer. -/
def asNumeric (e : Expr) (node : Node) : Except Error Numeric :=
  match e with
  | null => .ok (.integer .null)
  | scalar .integer f => .ok (.integer f)
  | scalar .number f => .ok (.number f)
  | e => .error (mismatch .numeric e node)

def asQuery (e : Expr) (node : Node) : Except Error Query :=
  match e with
  | query q => .ok q
  | e => .error (mismatch (.type (some .dataset)) e node)

end Expr

structure Operand where
  node : Node
  expr : Except Error Expr

namespace Operand

def text (o : Operand) : String := o.node.text

def position (o : Operand) : Option Position := o.node.position

def formula (t : ScalarType) (o : Operand) : Except Error (Formula t) := do
  (← o.expr).asFormula t o.node

def numeric (o : Operand) : Except Error Numeric := do
  (← o.expr).asNumeric o.node

/-- A number of either kind, read as a real one. -/
def real (o : Operand) : Except Error (Formula .number) := do
  return (← o.numeric).toNumber

def query (o : Operand) : Except Error Query := do
  (← o.expr).asQuery o.node

def formulaOr (t : ScalarType) (default : t.Carrier) :
    Option Operand → Except Error (Formula t)
  | some o => o.formula t
  | none => .ok (.constant (some default))

end Operand

end DatasetScript
