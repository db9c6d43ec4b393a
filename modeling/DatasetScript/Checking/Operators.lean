import DatasetScript.Semantics.Operand
import DatasetScript.Number.Integer
import DatasetScript.Number.Real
/-!
# Operators

Literals, variables, operators and conditionals. Logic is three-valued with NULL as the unknown
value; arithmetic gives NULL where the exact integer does not fit or the real is not finite.
-/

namespace DatasetScript

def Literal.value : Literal → Value
  | null => .null
  | integer i => .integer i
  | number x => .number x
  | boolean b => .boolean b
  | string s => .string s

namespace Checking

def literal (l : Literal) : Expr := .constant l.value

/-! ### Variables -/

/-- The dataset bound to a variable, in the declared column order. -/
def boundDataset (name : String) (declared : Structure) (env : Env) : Except Error Dataset :=
  match env name with
  | some (.dataset d) => d.conform declared name
  | some v => .error (.typeMismatch (.type (some .dataset)) (.type v.type?) name)
  | none => .error (.resolutionFailure (.unbound name))

def boundValue (name : String) (env : Env) : Except Error Value :=
  match env name with
  | some v => .ok v
  | none => .error (.resolutionFailure (.unbound name))

/-- A variable has the type of its declaration, and its value is read anew in each environment.
A variable declared NULL is the NULL literal. -/
def variableNamed (scope : Scope) (name : String) : Except Error Expr :=
  match scope name with
  | none => .error (.resolutionFailure (.unknownVariable name))
  | some .null => .ok .null
  | some (.column t) => Expr.ofValues t (boundValue name)
  | some (.dataset layout) => .ok (.query ⟨layout, boundDataset name layout⟩)

/-! ### Logic -/

/-- False if either side is false, and unknown if neither that nor both true. -/
def kleeneAnd : Option Bool → Option Bool → Option Bool
  | some false, _ | _, some false => some false
  | some true, some true => some true
  | _, _ => none

/-- True if either side is true, and unknown if neither that nor both false. -/
def kleeneOr : Option Bool → Option Bool → Option Bool
  | some true, _ | _, some true => some true
  | some false, some false => some false
  | _, _ => none

/-- The right side is not resolved if the left one decides. -/
def conjunction (l r : Formula .boolean) : Formula .boolean := fun env => do
  let a : Option Bool ← l env
  if a = some false then return some false else return kleeneAnd a (← r env)

def disjunction (l r : Formula .boolean) : Formula .boolean := fun env => do
  let a : Option Bool ← l env
  if a = some true then return some true else return kleeneOr a (← r env)

def logical (op : LogicalOp) (left right : Operand) : Except Error Expr := do
  let l ← left.formula .boolean
  let r ← right.formula .boolean
  return .scalar .boolean <| match op with
    | .and => conjunction l r
    | .or => disjunction l r
    | .xor => l.zip r fun a b => some (a != b)

/-! ### Arithmetic -/

/-- Combines numbers as integers if both are, and as reals otherwise. -/
def combineNumbers (l r : Numeric) (onIntegers : Int64 → Int64 → Option Int64)
    (onReals : Float → Float → Option Float) : Expr :=
  match l, r with
  | .integer a, .integer b => .scalar .integer (a.zip b onIntegers)
  | a, b => .scalar .number (a.toNumber.zip b.toNumber onReals)

def divideReals (x y : Float) : Option Float :=
  if y == 0 then none else Real.finite (x / y)

def multiplicative (op : MultiplicativeOp) (left right : Operand) : Except Error Expr := do
  let l ← left.numeric
  let r ← right.numeric
  return match op with
    | .mul => combineNumbers l r Checked.mul fun x y => Real.finite (x * y)
    | .div => .scalar .number (l.toNumber.zip r.toNumber divideReals)

/-- Both operands are checked on their own before either is asked for its type. -/
def additive (op : AdditiveOp) (left right : Operand) : Except Error Expr := do
  let l ← left.expr
  let r ← right.expr
  match op with
  | .concat =>
    let l ← l.asFormula .string left.node
    let r ← r.asFormula .string right.node
    return .scalar .string (l.zip r fun s t => some (s ++ t))
  | .plus =>
    let l ← l.asNumeric left.node
    let r ← r.asNumeric right.node
    return combineNumbers l r Checked.add fun x y => Real.finite (x + y)
  | .minus =>
    let l ← l.asNumeric left.node
    let r ← r.asNumeric right.node
    return combineNumbers l r Checked.sub fun x y => Real.finite (x - y)

def unary (op : UnaryOp) (operand : Operand) : Except Error Expr := do
  match op with
  | .not =>
    let f ← operand.formula .boolean
    return .scalar .boolean (f.map fun b => some (!b))
  | .plus => return (← operand.numeric).toExpr
  | .minus =>
    match ← operand.numeric with
    | .integer f => return .scalar .integer (f.map Checked.neg)
    | .number f => return .scalar .number (f.map fun x => some (-x))

/-! ### Comparison -/

def holds (op : ComparisonOp) (o : Ordering) : Bool :=
  match op with
  | .eq => o == .eq
  | .ne => o != .eq
  | .lt => o == .lt
  | .le => o != .gt
  | .gt => o == .gt
  | .ge => o != .lt

/-- Compares two expressions. Values that are not ordered compare as NULL. -/
def comparison (op : ComparisonOp) (left right : Operand) : Except Error Expr := do
  let l ← left.expr
  let r ← right.expr
  if comparable l.type? r.type? then
    let compared : Formula .boolean := fun env => do
      let v ← l.resolve env
      let w ← r.resolve env
      return (v.compare? w).map (holds op)
    return .scalar .boolean compared
  else
    .error ⟨.typeMismatch (.type l.type?) (.type r.type?)
      (left.text ++ " " ++ op.symbol ++ " " ++ right.text), right.position⟩

/-- Whether a value equals one of a list. -/
def isAmong (v : Value) (list : List Value) : Bool :=
  list.any fun w => v.compare? w == some .eq

/-- Membership in a list of literals, which NULL is neither in nor not in. -/
def membership (negated : Bool) (operand : Operand) (list : List Literal) :
    Except Error Expr := do
  let e ← operand.expr
  let values := list.map Literal.value
  match values.find? fun v => !comparable e.type? v.type? with
  | some v =>
    .error ⟨.typeMismatch (.type e.type?) (.type v.type?) (operand.text ++ " in list"),
      operand.position⟩
  | none =>
    let member : Formula .boolean := fun env => do
      let v ← e.resolve env
      return if v.isNull then none else some (isAmong v values != negated)
    return .scalar .boolean member

def binary (op : BinaryOp) (left right : Operand) : Except Error Expr :=
  match op with
  | .logical op => logical op left right
  | .multiplicative op => multiplicative op left right
  | .additive op => additive op left right
  | .comparison op => comparison op left right

/-! ### Conditionals -/

/-- Gives a NULL branch the type of the other one. -/
def unifyBranches (thenExpr elseExpr : Expr) (thenBranch elseBranch : Operand) :
    Except Error (Expr × Expr) := do
  match thenExpr.type?, elseExpr.type? with
  | some t, none => return (thenExpr, ← elseExpr.asType t elseBranch.node)
  | none, some t => return (← thenExpr.asType t thenBranch.node, elseExpr)
  | _, _ => return (thenExpr, elseExpr)

/-- Resolves the first branch if the condition is true, and the second if it is false or NULL. -/
def choose {α : Type} (condition : Formula .boolean) (thenRun elseRun : Env → Except Error α)
    (env : Env) : Except Error α := do
  let b : Option Bool ← condition env
  if b = some true then thenRun env else elseRun env

def conditional (condition thenBranch elseBranch : Operand) : Except Error Expr := do
  let c ← condition.expr
  if c.isNull then Expr.typedNull .boolean
  else
    let c ← c.asFormula .boolean condition.node
    let t ← thenBranch.expr
    let e ← elseBranch.expr
    match ← unifyBranches t e thenBranch elseBranch with
    | (.query t, .query e) =>
      if t.layout.isCompatibleWith e.layout then
        return .query ⟨t.layout, choose c t.run e.run⟩
      else
        .error ⟨.structureMismatch (.branchesDiffer elseBranch.text), elseBranch.position⟩
    | (t, e) =>
      match t.type?, e.type? with
      | none, none => return .null
      | some a, some b =>
        if a = b then Expr.ofCastValues a (choose c t.resolve e.resolve)
        else
          .error ⟨.branchTypeMismatch a b ("if " ++ condition.text ++ " then " ++
            thenBranch.text ++ " else " ++ elseBranch.text), elseBranch.position⟩
      | some a, none | none, some a => Expr.ofCastValues a (choose c t.resolve e.resolve)

end Checking

end DatasetScript
