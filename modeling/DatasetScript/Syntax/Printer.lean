import DatasetScript.Syntax.Node
import DatasetScript.Number.Layout
/-!
# Texts of syntax trees

How a node is written in messages. Operators are written without parentheses of their own, and the
characters of a text literal as they are.
-/

namespace DatasetScript

def Literal.text : Literal → String
  | null => "null"
  | integer i => toString i.toInt
  | number x => NumberLayout.message.write x
  | boolean b => if b then "true" else "false"
  | string s => "\"" ++ s ++ "\""

def commaList (texts : List String) : String := ", ".intercalate texts

def RenameItem.text (item : RenameItem) : String := item.source ++ " to " ++ item.target

mutual

def Node.text : Node → String
  | ⟨form, _⟩ => form.text

def Form.text : Form → String
  | .literal l => l.text
  | .name name => name
  | .binary op left right => left.text ++ " " ++ op.symbol ++ " " ++ right.text
  | .unary op operand => op.symbol ++ operand.text
  | .parenthesis inner => "(" ++ inner.text ++ ")"
  | .membership negated operand list =>
    operand.text ++ (if negated then " not_in " else " in ") ++ "\x7b" ++
      commaList (list.map Literal.text) ++ "\x7d"
  | .conditional condition thenBranch elseBranch =>
    "if " ++ condition.text ++ " then " ++ thenBranch.text ++ " else " ++ elseBranch.text
  | .call _ function args => function ++ "(" ++ commaList (nodeTexts args) ++ ")"
  | .join kind operands keys =>
    kind.name ++ "(" ++ commaList (joinOperandTexts operands) ++
      (if keys.isEmpty then "" else " using " ++ commaList keys) ++ ")"
  | .clause dataset clause => dataset.text ++ "[" ++ clause.text ++ "]"

def nodeTexts : List Node → List String
  | [] => []
  | node :: rest => node.text :: nodeTexts rest

def joinOperandTexts : List JoinOperand → List String
  | [] => []
  | ⟨dataset, none⟩ :: rest => dataset.text :: joinOperandTexts rest
  | ⟨dataset, some name⟩ :: rest => (dataset.text ++ " as " ++ name) :: joinOperandTexts rest

def Clause.text : Clause → String
  | .calculate items => "calc " ++ commaList (calcItemTexts items)
  | .filter predicate => "filter " ++ predicate.text
  | .rename items => "rename " ++ commaList (items.map RenameItem.text)
  | .keep names => "keep " ++ commaList names
  | .drop names => "drop " ++ commaList names
  | .aggregate items groupBy =>
    "aggr " ++ commaList (aggregateItemTexts items) ++
      (if groupBy.isEmpty then "" else " group by " ++ commaList groupBy)

def calcItemTexts : List CalcItem → List String
  | [] => []
  | ⟨name, _, expression⟩ :: rest => (name ++ " := " ++ expression.text) :: calcItemTexts rest

def aggregateItemTexts : List AggregateItem → List String
  | [] => []
  | ⟨name, _, function, none⟩ :: rest =>
    (name ++ " := " ++ function.name ++ "()") :: aggregateItemTexts rest
  | ⟨name, _, function, some operand⟩ :: rest =>
    (name ++ " := " ++ function.name ++ "(" ++ operand.text ++ ")") :: aggregateItemTexts rest

end

end DatasetScript
