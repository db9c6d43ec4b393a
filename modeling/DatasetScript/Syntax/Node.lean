import DatasetScript.Error
/-!
# Syntax trees

Expressions as trees of nodes. A node is a form with an optional source position; clauses apply an
operation to a dataset and may hold expressions about its rows.
-/

namespace DatasetScript

inductive Literal where
  | null
  | integer (i : Int64)
  | number (x : Float)
  | boolean (b : Bool)
  | string (s : String)

structure RenameItem where
  source : String
  target : String
  deriving DecidableEq

mutual

structure Node where
  form : Form
  position : Option Position

inductive Form where
  | literal (l : Literal)
  | name (name : String)
  | binary (op : BinaryOp) (left right : Node)
  | unary (op : UnaryOp) (operand : Node)
  | parenthesis (inner : Node)
  | membership (negated : Bool) (operand : Node) (list : List Literal)
  | conditional (condition thenBranch elseBranch : Node)
  | call (family : FunctionFamily) (function : String) (args : List Node)
  | join (kind : JoinKind) (operands : List JoinOperand) (keys : List String)
  | clause (dataset : Node) (clause : Clause)

/-- A dataset taking part in a join, optionally under a name of its own. -/
structure JoinOperand where
  dataset : Node
  label : Option String

inductive Clause where
  | calculate (items : List CalcItem)
  | filter (predicate : Node)
  | rename (items : List RenameItem)
  | keep (names : List String)
  | drop (names : List String)
  | aggregate (items : List AggregateItem) (groupBy : List String)

structure CalcItem where
  name : String
  role : Option Role
  expression : Node

structure AggregateItem where
  name : String
  role : Option Role
  function : AggregateFunction
  operand : Option Node

end

/-- The text that a node is the literal of. -/
def Node.textLiteral? : Node → Option String
  | ⟨.literal (.string text), _⟩ => some text
  | _ => none

/-- The assignment `name := expression`. -/
structure Statement where
  name : String
  expression : Node

abbrev Program := List Statement

end DatasetScript
