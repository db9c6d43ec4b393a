import DatasetScript.Syntax.Printer
/-!
# Bare trees

What the text of a tree does not show: its positions, the roles that columns are given and the
families of functions. Main statement: `Node.text_bare`.
-/

namespace DatasetScript

mutual

/-- The tree without what its text does not show: positions, roles of columns and the families of
functions. -/
def Node.bare : Node → Node
  | ⟨form, _⟩ => ⟨form.bare, none⟩

def Form.bare : Form → Form
  | .literal l => .literal l
  | .name name => .name name
  | .binary op left right => .binary op left.bare right.bare
  | .unary op operand => .unary op operand.bare
  | .parenthesis inner => .parenthesis inner.bare
  | .membership negated operand list => .membership negated operand.bare list
  | .conditional condition thenBranch elseBranch =>
    .conditional condition.bare thenBranch.bare elseBranch.bare
  | .call _ function args => .call .string function (bareArguments args)
  | .join kind operands keys => .join kind (bareOperands operands) keys
  | .clause dataset clause => .clause dataset.bare clause.bare

def bareArguments : List Node → List Node
  | [] => []
  | node :: rest => node.bare :: bareArguments rest

def bareOperands : List JoinOperand → List JoinOperand
  | [] => []
  | ⟨dataset, label⟩ :: rest => ⟨dataset.bare, label⟩ :: bareOperands rest

def Clause.bare : Clause → Clause
  | .calculate items => .calculate (bareCalculations items)
  | .filter predicate => .filter predicate.bare
  | .rename items => .rename items
  | .keep names => .keep names
  | .drop names => .drop names
  | .aggregate items groupBy => .aggregate (bareCollections items) groupBy

def bareCalculations : List CalcItem → List CalcItem
  | [] => []
  | ⟨name, _, expression⟩ :: rest => ⟨name, none, expression.bare⟩ :: bareCalculations rest

def bareCollections : List AggregateItem → List AggregateItem
  | [] => []
  | ⟨name, _, function, none⟩ :: rest => ⟨name, none, function, none⟩ :: bareCollections rest
  | ⟨name, _, function, some operand⟩ :: rest =>
    ⟨name, none, function, some operand.bare⟩ :: bareCollections rest

end

mutual

@[simp] theorem Node.text_bare : (node : Node) → node.bare.text = node.text
  | ⟨form, _⟩ => form.text_bare

@[simp] theorem Form.text_bare : (form : Form) → form.bare.text = form.text
  | .literal _ | .name _ => rfl
  | .binary op left right => by simp [Form.bare, Form.text, left.text_bare, right.text_bare]
  | .unary op operand => by simp [Form.bare, Form.text, operand.text_bare]
  | .parenthesis inner => by simp [Form.bare, Form.text, inner.text_bare]
  | .membership _ operand _ => by simp [Form.bare, Form.text, operand.text_bare]
  | .conditional condition thenBranch elseBranch => by
    simp [Form.bare, Form.text, condition.text_bare, thenBranch.text_bare, elseBranch.text_bare]
  | .call _ _ args => by simp [Form.bare, Form.text, nodeTexts_bare args]
  | .join _ operands _ => by simp [Form.bare, Form.text, joinOperandTexts_bare operands]
  | .clause dataset clause => by
    simp [Form.bare, Form.text, dataset.text_bare, clause.text_bare]

theorem nodeTexts_bare : (args : List Node) → nodeTexts (bareArguments args) = nodeTexts args
  | [] => rfl
  | node :: rest => by simp [bareArguments, nodeTexts, node.text_bare, nodeTexts_bare rest]

theorem joinOperandTexts_bare : (operands : List JoinOperand) →
    joinOperandTexts (bareOperands operands) = joinOperandTexts operands
  | [] => rfl
  | ⟨dataset, none⟩ :: rest => by
    simp [bareOperands, joinOperandTexts, dataset.text_bare, joinOperandTexts_bare rest]
  | ⟨dataset, some _⟩ :: rest => by
    simp [bareOperands, joinOperandTexts, dataset.text_bare, joinOperandTexts_bare rest]

@[simp] theorem Clause.text_bare : (clause : Clause) → clause.bare.text = clause.text
  | .calculate items => by simp [Clause.bare, Clause.text, calcItemTexts_bare items]
  | .filter predicate => by simp [Clause.bare, Clause.text, predicate.text_bare]
  | .rename _ | .keep _ | .drop _ => rfl
  | .aggregate items _ => by simp [Clause.bare, Clause.text, aggregateItemTexts_bare items]

theorem calcItemTexts_bare : (items : List CalcItem) →
    calcItemTexts (bareCalculations items) = calcItemTexts items
  | [] => rfl
  | ⟨_, _, expression⟩ :: rest => by
    simp [bareCalculations, calcItemTexts, expression.text_bare, calcItemTexts_bare rest]

theorem aggregateItemTexts_bare : (items : List AggregateItem) →
    aggregateItemTexts (bareCollections items) = aggregateItemTexts items
  | [] => rfl
  | ⟨_, _, _, none⟩ :: rest => by
    simp [bareCollections, aggregateItemTexts, aggregateItemTexts_bare rest]
  | ⟨_, _, _, some operand⟩ :: rest => by
    simp [bareCollections, aggregateItemTexts, operand.text_bare, aggregateItemTexts_bare rest]

end

/-! ### Texts of items -/

def JoinOperand.text (o : JoinOperand) : String :=
  o.dataset.text ++ (o.label.map (" as " ++ ·)).getD ""

def JoinOperand.bare (o : JoinOperand) : JoinOperand := ⟨o.dataset.bare, o.label⟩

def CalcItem.text (item : CalcItem) : String := item.name ++ " := " ++ item.expression.text

def CalcItem.bare (item : CalcItem) : CalcItem := ⟨item.name, none, item.expression.bare⟩

def AggregateItem.text (item : AggregateItem) : String :=
  item.name ++ " := " ++ item.function.name ++ "(" ++ (item.operand.map Node.text).getD "" ++ ")"

def AggregateItem.bare (item : AggregateItem) : AggregateItem :=
  ⟨item.name, none, item.function, item.operand.map Node.bare⟩

theorem nodeTexts_eq_map (args : List Node) : nodeTexts args = args.map Node.text := by
  induction args with
  | nil => rfl
  | cons node rest ih => rw [nodeTexts, ih, List.map_cons]

theorem bareArguments_eq_map (args : List Node) : bareArguments args = args.map Node.bare := by
  induction args with
  | nil => rfl
  | cons node rest ih => rw [bareArguments, ih, List.map_cons]

theorem joinOperandTexts_eq_map (operands : List JoinOperand) :
    joinOperandTexts operands = operands.map JoinOperand.text := by
  induction operands with
  | nil => rfl
  | cons o rest ih =>
    obtain ⟨dataset, label⟩ := o
    cases label <;> simp [joinOperandTexts, ih, JoinOperand.text, String.append_assoc]

theorem bareOperands_eq_map (operands : List JoinOperand) :
    bareOperands operands = operands.map JoinOperand.bare := by
  induction operands with
  | nil => rfl
  | cons o rest ih =>
    obtain ⟨dataset, label⟩ := o
    simp [bareOperands, ih, JoinOperand.bare]

theorem calcItemTexts_eq_map (items : List CalcItem) :
    calcItemTexts items = items.map CalcItem.text := by
  induction items with
  | nil => rfl
  | cons item rest ih =>
    obtain ⟨name, role, expression⟩ := item
    simp [calcItemTexts, ih, CalcItem.text]

theorem bareCalculations_eq_map (items : List CalcItem) :
    bareCalculations items = items.map CalcItem.bare := by
  induction items with
  | nil => rfl
  | cons item rest ih =>
    obtain ⟨name, role, expression⟩ := item
    simp [bareCalculations, ih, CalcItem.bare]

theorem aggregateItemTexts_eq_map (items : List AggregateItem) :
    aggregateItemTexts items = items.map AggregateItem.text := by
  induction items with
  | nil => rfl
  | cons item rest ih =>
    obtain ⟨name, role, function, operand⟩ := item
    cases operand <;> simp [aggregateItemTexts, ih, AggregateItem.text, String.append_assoc]

theorem bareCollections_eq_map (items : List AggregateItem) :
    bareCollections items = items.map AggregateItem.bare := by
  induction items with
  | nil => rfl
  | cons item rest ih =>
    obtain ⟨name, role, function, operand⟩ := item
    cases operand <;> simp [bareCollections, ih, AggregateItem.bare]

end DatasetScript
