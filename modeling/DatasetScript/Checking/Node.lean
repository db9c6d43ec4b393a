import DatasetScript.Checking.Clauses
import DatasetScript.Checking.ComparisonFunctions
import DatasetScript.Checking.DatasetFunctions
import DatasetScript.Checking.NumericFunctions
import DatasetScript.Checking.Operators
/-!
# Checking syntax trees

Checking a node in a scope gives an expression with a static type, or the first error in source
order. Every error, of checking as of resolving, takes the position of the innermost node around it
that has one.
-/

namespace DatasetScript

variable [PatternLanguage]

namespace Checking

def call (family : FunctionFamily) (function : String) (args : List Operand) :
    Except Error Expr :=
  match family with
  | .string => textFunction function args
  | .numeric => numericFunction function args
  | .comparison => comparisonFunction function args
  | .set => setFunction function args
  | .distance => distanceFunction function args

end Checking

mutual

def Node.check (scope : Scope) : Node → Except Error Expr
  | ⟨form, position⟩ => do
    return (← locate position (form.check scope)).locate position

def Form.check (scope : Scope) : Form → Except Error Expr
  | .literal l => .ok (Checking.literal l)
  | .name name => Checking.variableNamed scope name
  | .binary op left right =>
    Checking.binary op ⟨left, left.check scope⟩ ⟨right, right.check scope⟩
  | .unary op operand => Checking.unary op ⟨operand, operand.check scope⟩
  | .parenthesis inner => inner.check scope
  | .membership negated operand list =>
    Checking.membership negated ⟨operand, operand.check scope⟩ list
  | .conditional condition thenBranch elseBranch =>
    Checking.conditional ⟨condition, condition.check scope⟩
      ⟨thenBranch, thenBranch.check scope⟩ ⟨elseBranch, elseBranch.check scope⟩
  | .call family function args => Checking.call family function (checkArguments scope args)
  | .join kind operands keys => Checking.join kind (checkJoinOperands scope operands) keys
  | .clause dataset clause => do
    let input ← Operand.query ⟨dataset, dataset.check scope⟩
    return .query (← clause.check input)

def checkArguments (scope : Scope) : List Node → List Operand
  | [] => []
  | node :: rest => ⟨node, node.check scope⟩ :: checkArguments scope rest

def checkJoinOperands (scope : Scope) : List JoinOperand → List (Option String × Operand)
  | [] => []
  | ⟨dataset, label⟩ :: rest =>
    (label, ⟨dataset, dataset.check scope⟩) :: checkJoinOperands scope rest

/-- Checks a clause on a dataset, with the columns of the dataset in scope. -/
def Clause.check (input : Query) : Clause → Except Error Query
  | .calculate items =>
    Checking.calculate input (checkCalculations input.layout.scope items)
  | .filter predicate =>
    Checking.filter input ⟨predicate, predicate.check input.layout.scope⟩
  | .rename items => Checking.rename input items
  | .keep names => input.project names
  | .drop names => Checking.drop input names
  | .aggregate items groupBy =>
    Checking.aggregate input (checkCollections input.layout.scope items) groupBy

def checkCalculations (scope : Scope) : List CalcItem → List Checking.Calculation
  | [] => []
  | ⟨name, role, expression⟩ :: rest =>
    ⟨name, role, ⟨expression, expression.check scope⟩⟩ :: checkCalculations scope rest

def checkCollections (scope : Scope) : List AggregateItem → List Checking.Collection
  | [] => []
  | ⟨name, role, function, none⟩ :: rest =>
    ⟨name, role, function, none⟩ :: checkCollections scope rest
  | ⟨name, role, function, some operand⟩ :: rest =>
    ⟨name, role, function, some ⟨operand, operand.check scope⟩⟩ :: checkCollections scope rest

end

end DatasetScript
