import DatasetScript.Interchange.Structure
import DatasetScript.Interchange.Tag
import DatasetScript.Number.Integer
import DatasetScript.Number.Binary64
import DatasetScript.Syntax.Node
/-!
# Syntax trees in JSON

Every form of node is a variant that carries its parts as a record. Reading allows what records
and variants allow; writing gives objects with the fields in a fixed order and leaves out missing
positions only.
-/

namespace DatasetScript

/-! ### Writing -/

def Position.toJson (p : Position) : Json :=
  .object [("line", .integer p.line.toNat), ("column", .integer p.column.toNat)]

/-- A variant with what it carries. -/
def Json.tagged (name : String) (content : Json) : Json := .object [(name, content)]

def Json.stringOrNull (s : Option String) : Json := (s.map Json.string).getD .null

def Json.strings (names : List String) : Json := .array (names.map Json.string)

def Literal.toJson : Literal → Json
  | null => .string "Null"
  | integer i => .tagged "Integer" (.integer i.toInt)
  | number x => .tagged "Number" (if x.isFinite then .float x else .null)
  | boolean b => .tagged "Boolean" (.bool b)
  | string s => .tagged "String" (.string s)

def RenameItem.toJson (item : RenameItem) : Json :=
  .object [("from", .string item.source), ("to", .string item.target)]

def roleToJson (role : Option Role) : Json := Json.stringOrNull (role.map Role.name)

def binaryToJson (op : BinaryOp) (left right : Json) : Json :=
  let parts (tag : String) : Json :=
    .object [("op", .string tag), ("left", left), ("right", right)]
  match op with
  | .logical op => .tagged "Boolean" (parts op.tag)
  | .multiplicative op => .tagged "Arithmetic" (parts op.tag)
  | .additive op => .tagged "ArithmeticOrConcat" (parts op.tag)
  | .comparison op => .tagged "Comparison" (parts op.tag)

mutual

def Node.toJson : Node → Json
  | ⟨form, none⟩ => .object [("kind", form.toJson)]
  | ⟨form, some p⟩ => .object [("kind", form.toJson), ("position", p.toJson)]

def Form.toJson : Form → Json
  | .literal l => .tagged "Constant" l.toJson
  | .name name => .tagged "VarId" (.string name)
  | .binary op left right => binaryToJson op left.toJson right.toJson
  | .unary op operand =>
    .tagged "Unary" (.object [("op", .string op.tag), ("operand", operand.toJson)])
  | .parenthesis inner => .tagged "Parenthesis" inner.toJson
  | .membership negated operand list =>
    .tagged "InNotIn" (.object [("negated", .bool negated), ("operand", operand.toJson),
      ("list", .array (list.map Literal.toJson))])
  | .conditional condition thenBranch elseBranch =>
    .tagged "If" (.object [("condition", condition.toJson), ("then_branch", thenBranch.toJson),
      ("else_branch", elseBranch.toJson)])
  | .call family function args =>
    .tagged "Function" (.object [("category", .string family.tag), ("name", .string function),
      ("args", .array (nodesToJson args))])
  | .join kind operands keys =>
    .tagged "Join" (.object [("kind", .string kind.tag),
      ("operands", .array (joinOperandsToJson operands)), ("using", Json.strings keys)])
  | .clause dataset clause =>
    .tagged "Clause" (.object [("dataset", dataset.toJson), ("clause", clause.toJson)])

def nodesToJson : List Node → List Json
  | [] => []
  | node :: rest => node.toJson :: nodesToJson rest

def joinOperandsToJson : List JoinOperand → List Json
  | [] => []
  | ⟨dataset, label⟩ :: rest =>
    .object [("dataset", dataset.toJson), ("alias", Json.stringOrNull label)] ::
      joinOperandsToJson rest

def Clause.toJson : Clause → Json
  | .calculate items => .tagged "Calc" (.array (calcItemsToJson items))
  | .filter predicate => .tagged "Filter" predicate.toJson
  | .rename items => .tagged "Rename" (.array (items.map RenameItem.toJson))
  | .keep names => .tagged "Keep" (Json.strings names)
  | .drop names => .tagged "Drop" (Json.strings names)
  | .aggregate items groupBy =>
    .tagged "Aggregate" (.object [("items", .array (aggregateItemsToJson items)),
      ("group_by", Json.strings groupBy)])

def calcItemsToJson : List CalcItem → List Json
  | [] => []
  | ⟨name, role, expression⟩ :: rest =>
    .object [("name", .string name), ("role", roleToJson role),
      ("expression", expression.toJson)] :: calcItemsToJson rest

def aggregateItemsToJson : List AggregateItem → List Json
  | [] => []
  | ⟨name, role, function, none⟩ :: rest =>
    .object [("name", .string name), ("role", roleToJson role),
      ("function", .string function.tag), ("operand", .null)] :: aggregateItemsToJson rest
  | ⟨name, role, function, some operand⟩ :: rest =>
    .object [("name", .string name), ("role", roleToJson role),
      ("function", .string function.tag), ("operand", operand.toJson)] ::
        aggregateItemsToJson rest

end

def Statement.toJson (s : Statement) : Json :=
  .tagged "Assignment" (.object [("name", .string s.name), ("expression", s.expression.toJson)])

def Program.toJson (p : Program) : Json :=
  .object [("statements", .array (p.map Statement.toJson))]

/-! ### Reading -/

def Json.strings? (j : Json) : Option (List String) := j.list? Json.string?

/-- A number of 32 bits without sign. -/
def Json.word? : Json → Option UInt32
  | .integer n => if 0 ≤ n ∧ n < 4294967296 then some n.toNat.toUInt32 else none
  | _ => none

def Json.int64? : Json → Option Int64
  | .integer n => toInt64? n
  | _ => none

/-- A real number, which may be written as an integer. -/
def Json.real? : Json → Option Float
  | .integer n => some (Binary64.ofRatio (n < 0) n.natAbs 1)
  | .float x => some x
  | _ => none

def Position.ofJson? (j : Json) : Option Position :=
  match j.record? ["line", "column"] with
  | some [some line, some column] => do return ⟨← line.word?, ← column.word?⟩
  | _ => none

def Literal.ofJson? (j : Json) : Option Literal :=
  match j.variant? with
  | some ("Null", none) | some ("Null", some .null) => some null
  | some ("Integer", some content) => content.int64?.map integer
  | some ("Number", some content) => content.real?.map number
  | some ("Boolean", some content) => content.bool?.map boolean
  | some ("String", some content) => content.string?.map string
  | _ => none

def RenameItem.ofJson? (j : Json) : Option RenameItem :=
  match j.record? ["from", "to"] with
  | some [some source, some target] => do return ⟨← source.string?, ← target.string?⟩
  | _ => none

/-! The nodes within a form or clause are read by the function `node`. -/

section

variable (node : Json → Option Node)

def binaryOfJson? {α : Type} (operator : Json → Option α) (wrap : α → BinaryOp) (j : Json) :
    Option Form :=
  match j.record? ["op", "left", "right"] with
  | some [some op, some left, some right] => do
    return .binary (wrap (← operator op)) (← node left) (← node right)
  | _ => none

def unaryOfJson? (j : Json) : Option Form :=
  match j.record? ["op", "operand"] with
  | some [some op, some operand] => do return .unary (← UnaryOp.ofJson? op) (← node operand)
  | _ => none

def membershipOfJson? (j : Json) : Option Form :=
  match j.record? ["negated", "operand", "list"] with
  | some [some negated, some operand, some list] => do
    return .membership (← negated.bool?) (← node operand) (← list.list? Literal.ofJson?)
  | _ => none

def conditionalOfJson? (j : Json) : Option Form :=
  match j.record? ["condition", "then_branch", "else_branch"] with
  | some [some condition, some thenBranch, some elseBranch] => do
    return .conditional (← node condition) (← node thenBranch) (← node elseBranch)
  | _ => none

def callOfJson? (j : Json) : Option Form :=
  match j.record? ["category", "name", "args"] with
  | some [some family, some name, some args] => do
    return .call (← FunctionFamily.ofJson? family) (← name.string?) (← args.list? node)
  | _ => none

def JoinOperand.ofJson? (j : Json) : Option JoinOperand :=
  match j.record? ["dataset", "alias"] with
  | some [some dataset, label] => do
    return ⟨← node dataset, ← Json.optional? Json.string? label⟩
  | _ => none

def joinOfJson? (j : Json) : Option Form :=
  match j.record? ["kind", "operands", "using"] with
  | some [some kind, some operands, keys] => do
    return .join (← JoinKind.ofJson? kind) (← operands.list? (JoinOperand.ofJson? node))
      (← Json.listOrEmpty? Json.string? keys)
  | _ => none

def CalcItem.ofJson? (j : Json) : Option CalcItem :=
  match j.record? ["name", "role", "expression"] with
  | some [some name, role, some expression] => do
    return ⟨← name.string?, ← Json.optional? Role.ofJson? role, ← node expression⟩
  | _ => none

def AggregateItem.ofJson? (j : Json) : Option AggregateItem :=
  match j.record? ["name", "role", "function", "operand"] with
  | some [some name, role, some function, operand] => do
    return ⟨← name.string?, ← Json.optional? Role.ofJson? role,
      ← AggregateFunction.ofJson? function, ← Json.optional? node operand⟩
  | _ => none

def aggregateOfJson? (j : Json) : Option Clause :=
  match j.record? ["items", "group_by"] with
  | some [some items, groupBy] => do
    return .aggregate (← items.list? (AggregateItem.ofJson? node))
      (← Json.listOrEmpty? Json.string? groupBy)
  | _ => none

def Clause.ofJson? (j : Json) : Option Clause :=
  match j.variant? with
  | some ("Calc", some content) => (content.list? (CalcItem.ofJson? node)).map .calculate
  | some ("Filter", some content) => (node content).map .filter
  | some ("Rename", some content) => (content.list? RenameItem.ofJson?).map .rename
  | some ("Keep", some content) => content.strings?.map .keep
  | some ("Drop", some content) => content.strings?.map .drop
  | some ("Aggregate", some content) => aggregateOfJson? node content
  | _ => none

def clauseOfJson? (j : Json) : Option Form :=
  match j.record? ["dataset", "clause"] with
  | some [some dataset, some clause] => do
    return .clause (← node dataset) (← Clause.ofJson? node clause)
  | _ => none

def Form.ofJson? (j : Json) : Option Form :=
  match j.variant? with
  | some ("Constant", some content) => (Literal.ofJson? content).map .literal
  | some ("VarId", some content) => content.string?.map .name
  | some ("Boolean", some content) => binaryOfJson? node LogicalOp.ofJson? .logical content
  | some ("Arithmetic", some content) =>
    binaryOfJson? node MultiplicativeOp.ofJson? .multiplicative content
  | some ("ArithmeticOrConcat", some content) =>
    binaryOfJson? node AdditiveOp.ofJson? .additive content
  | some ("Comparison", some content) =>
    binaryOfJson? node ComparisonOp.ofJson? .comparison content
  | some ("Unary", some content) => unaryOfJson? node content
  | some ("Parenthesis", some content) => (node content).map .parenthesis
  | some ("InNotIn", some content) => membershipOfJson? node content
  | some ("If", some content) => conditionalOfJson? node content
  | some ("Function", some content) => callOfJson? node content
  | some ("Join", some content) => joinOfJson? node content
  | some ("Clause", some content) => clauseOfJson? node content
  | _ => none

end

/-- Reads a node that is nested no deeper than `depth`. -/
def Node.ofJsonWithin? : Nat → Json → Option Node
  | 0, _ => none
  | depth + 1, j =>
    match j.record? ["kind", "position"] with
    | some [some form, position] => do
      return ⟨← Form.ofJson? (ofJsonWithin? depth) form,
        ← Json.optional? Position.ofJson? position⟩
    | _ => none

def Node.ofJson? (j : Json) : Option Node := ofJsonWithin? j.depth j

def Statement.ofJson? (j : Json) : Option Statement :=
  match j.variant? with
  | some ("Assignment", some content) =>
    match content.record? ["name", "expression"] with
    | some [some name, some expression] => do
      return ⟨← name.string?, ← Node.ofJson? expression⟩
    | _ => none
  | _ => none

def Program.ofJson? (j : Json) : Option Program :=
  match j.record? ["statements"] with
  | some [some statements] => statements.list? Statement.ofJson?
  | _ => none

end DatasetScript
