/-!
# Operators

The operator tags of syntax nodes and the symbols they are written with.
-/

namespace DatasetScript

inductive LogicalOp where
  | and | or | xor
  deriving DecidableEq

inductive MultiplicativeOp where
  | mul | div
  deriving DecidableEq

inductive AdditiveOp where
  | plus | minus | concat
  deriving DecidableEq

inductive ComparisonOp where
  | eq | ne | lt | le | gt | ge
  deriving DecidableEq

inductive BinaryOp where
  | logical (op : LogicalOp)
  | multiplicative (op : MultiplicativeOp)
  | additive (op : AdditiveOp)
  | comparison (op : ComparisonOp)
  deriving DecidableEq

inductive UnaryOp where
  | plus | minus | not
  deriving DecidableEq

/-- Families of built-in functions. A function is found by its name within its family. -/
inductive FunctionFamily where
  | string | numeric | comparison | set | distance
  deriving DecidableEq

inductive JoinKind where
  | left | inner | full | cross
  deriving DecidableEq

inductive AggregateFunction where
  | count | sum | avg | min | max
  deriving DecidableEq

def LogicalOp.symbol : LogicalOp → String
  | and => "and"
  | or => "or"
  | xor => "xor"

def MultiplicativeOp.symbol : MultiplicativeOp → String
  | mul => "*"
  | div => "/"

def AdditiveOp.symbol : AdditiveOp → String
  | plus => "+"
  | minus => "-"
  | concat => "||"

def ComparisonOp.symbol : ComparisonOp → String
  | eq => "="
  | ne => "<>"
  | lt => "<"
  | le => "<="
  | gt => ">"
  | ge => ">="

def BinaryOp.symbol : BinaryOp → String
  | logical op => op.symbol
  | multiplicative op => op.symbol
  | additive op => op.symbol
  | comparison op => op.symbol

/-- Written directly before the operand, so the word carries its own blank. -/
def UnaryOp.symbol : UnaryOp → String
  | plus => "+"
  | minus => "-"
  | not => "not "

def JoinKind.name : JoinKind → String
  | left => "left_join"
  | inner => "inner_join"
  | full => "full_join"
  | cross => "cross_join"

def AggregateFunction.name : AggregateFunction → String
  | count => "count"
  | sum => "sum"
  | avg => "avg"
  | min => "min"
  | max => "max"

end DatasetScript
