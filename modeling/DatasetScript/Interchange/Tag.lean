import DatasetScript.Json.Record
import DatasetScript.Syntax.Operator
/-!
# Tags of operators

The names by which operators go in interchanged syntax trees. Main statements: reading a tag gives
back the operator that it was written for.
-/

namespace DatasetScript

/-! ### LogicalOp -/

namespace LogicalOp

def tag : LogicalOp → String
  | and => "And"
  | or => "Or"
  | xor => "Xor"

def ofTag? : String → Option LogicalOp
  | "And" => some and
  | "Or" => some or
  | "Xor" => some xor
  | _ => none

def ofJson? (j : Json) : Option LogicalOp := j.plainVariant?.bind ofTag?

theorem ofJson?_tag (op : LogicalOp) : ofJson? (.string op.tag) = some op := by
  cases op <;> rfl

end LogicalOp

/-! ### MultiplicativeOp -/

namespace MultiplicativeOp

def tag : MultiplicativeOp → String
  | mul => "Mul"
  | div => "Div"

def ofTag? : String → Option MultiplicativeOp
  | "Mul" => some mul
  | "Div" => some div
  | _ => none

def ofJson? (j : Json) : Option MultiplicativeOp := j.plainVariant?.bind ofTag?

theorem ofJson?_tag (op : MultiplicativeOp) : ofJson? (.string op.tag) = some op := by
  cases op <;> rfl

end MultiplicativeOp

/-! ### AdditiveOp -/

namespace AdditiveOp

def tag : AdditiveOp → String
  | plus => "Plus"
  | minus => "Minus"
  | concat => "Concat"

def ofTag? : String → Option AdditiveOp
  | "Plus" => some plus
  | "Minus" => some minus
  | "Concat" => some concat
  | _ => none

def ofJson? (j : Json) : Option AdditiveOp := j.plainVariant?.bind ofTag?

theorem ofJson?_tag (op : AdditiveOp) : ofJson? (.string op.tag) = some op := by
  cases op <;> rfl

end AdditiveOp

/-! ### ComparisonOp -/

namespace ComparisonOp

def tag : ComparisonOp → String
  | eq => "Eq"
  | ne => "Ne"
  | lt => "Lt"
  | le => "Le"
  | gt => "Gt"
  | ge => "Ge"

def ofTag? : String → Option ComparisonOp
  | "Eq" => some eq
  | "Ne" => some ne
  | "Lt" => some lt
  | "Le" => some le
  | "Gt" => some gt
  | "Ge" => some ge
  | _ => none

def ofJson? (j : Json) : Option ComparisonOp := j.plainVariant?.bind ofTag?

theorem ofJson?_tag (op : ComparisonOp) : ofJson? (.string op.tag) = some op := by
  cases op <;> rfl

end ComparisonOp

/-! ### UnaryOp -/

namespace UnaryOp

def tag : UnaryOp → String
  | plus => "Plus"
  | minus => "Minus"
  | not => "Not"

def ofTag? : String → Option UnaryOp
  | "Plus" => some plus
  | "Minus" => some minus
  | "Not" => some not
  | _ => none

def ofJson? (j : Json) : Option UnaryOp := j.plainVariant?.bind ofTag?

theorem ofJson?_tag (op : UnaryOp) : ofJson? (.string op.tag) = some op := by
  cases op <;> rfl

end UnaryOp

/-! ### FunctionFamily -/

namespace FunctionFamily

def tag : FunctionFamily → String
  | string => "String"
  | numeric => "Numeric"
  | comparison => "Comparison"
  | set => "Set"
  | distance => "Distance"

def ofTag? : String → Option FunctionFamily
  | "String" => some string
  | "Numeric" => some numeric
  | "Comparison" => some comparison
  | "Set" => some set
  | "Distance" => some distance
  | _ => none

def ofJson? (j : Json) : Option FunctionFamily := j.plainVariant?.bind ofTag?

theorem ofJson?_tag (family : FunctionFamily) : ofJson? (.string family.tag) = some family := by
  cases family <;> rfl

end FunctionFamily

/-! ### JoinKind -/

namespace JoinKind

def tag : JoinKind → String
  | left => "Left"
  | inner => "Inner"
  | full => "Full"
  | cross => "Cross"

def ofTag? : String → Option JoinKind
  | "Left" => some left
  | "Inner" => some inner
  | "Full" => some full
  | "Cross" => some cross
  | _ => none

def ofJson? (j : Json) : Option JoinKind := j.plainVariant?.bind ofTag?

theorem ofJson?_tag (kind : JoinKind) : ofJson? (.string kind.tag) = some kind := by
  cases kind <;> rfl

end JoinKind

/-! ### AggregateFunction -/

namespace AggregateFunction

def tag : AggregateFunction → String
  | count => "Count"
  | sum => "Sum"
  | avg => "Avg"
  | min => "Min"
  | max => "Max"

def ofTag? : String → Option AggregateFunction
  | "Count" => some count
  | "Sum" => some sum
  | "Avg" => some avg
  | "Min" => some min
  | "Max" => some max
  | _ => none

def ofJson? (j : Json) : Option AggregateFunction := j.plainVariant?.bind ofTag?

theorem ofJson?_tag (f : AggregateFunction) : ofJson? (.string f.tag) = some f := by
  cases f <;> rfl

end AggregateFunction

end DatasetScript
