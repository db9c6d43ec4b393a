import DatasetScript.Interchange.Syntax
import DatasetScript.Proofs.MemberOrder
/-!
# Syntax trees read back

A syntax tree whose numbers are finite is read back from its JSON tree, with the members of objects
in any order. Main statements: `Node.readBack` for nodes nested no deeper than is read, and
`Program.decode_toJson` for programs as they are written and with their members sorted.
-/

namespace DatasetScript

open Json (Reorders)

/-! ### Finite numbers -/

def Literal.Finite : Literal → Prop
  | number x => x.isFinite
  | _ => True

mutual

/-- Every number that the node is written with is finite. -/
def Node.Finite : Node → Prop
  | ⟨form, _⟩ => form.Finite

def Form.Finite : Form → Prop
  | .literal l => l.Finite
  | .name _ => True
  | .binary _ left right => left.Finite ∧ right.Finite
  | .unary _ operand => operand.Finite
  | .parenthesis inner => inner.Finite
  | .membership _ operand list => operand.Finite ∧ ∀ l ∈ list, l.Finite
  | .conditional condition thenBranch elseBranch =>
    condition.Finite ∧ thenBranch.Finite ∧ elseBranch.Finite
  | .call _ _ args => finiteArguments args
  | .join _ operands _ => finiteOperands operands
  | .clause dataset clause => dataset.Finite ∧ clause.Finite

def finiteArguments : List Node → Prop
  | [] => True
  | node :: rest => node.Finite ∧ finiteArguments rest

def finiteOperands : List JoinOperand → Prop
  | [] => True
  | ⟨dataset, _⟩ :: rest => dataset.Finite ∧ finiteOperands rest

def Clause.Finite : Clause → Prop
  | .calculate items => finiteCalculations items
  | .filter predicate => predicate.Finite
  | .rename _ | .keep _ | .drop _ => True
  | .aggregate items _ => finiteCollections items

def finiteCalculations : List CalcItem → Prop
  | [] => True
  | ⟨_, _, expression⟩ :: rest => expression.Finite ∧ finiteCalculations rest

def finiteCollections : List AggregateItem → Prop
  | [] => True
  | ⟨_, _, _, none⟩ :: rest => finiteCollections rest
  | ⟨_, _, _, some operand⟩ :: rest => operand.Finite ∧ finiteCollections rest

end

def Program.Finite (p : Program) : Prop := ∀ statement ∈ p, statement.expression.Finite

/-! ### Items of lists -/

def JoinOperand.toJson (o : JoinOperand) : Json :=
  .object [("dataset", o.dataset.toJson), ("alias", Json.stringOrNull o.label)]

def CalcItem.toJson (item : CalcItem) : Json :=
  .object [("name", .string item.name), ("role", roleToJson item.role),
    ("expression", item.expression.toJson)]

def AggregateItem.toJson (item : AggregateItem) : Json :=
  .object [("name", .string item.name), ("role", roleToJson item.role),
    ("function", .string item.function.tag),
    ("operand", (item.operand.map Node.toJson).getD .null)]

theorem nodesToJson_eq_map (nodes : List Node) : nodesToJson nodes = nodes.map Node.toJson := by
  induction nodes with
  | nil => rfl
  | cons node rest ih => exact congrArg (node.toJson :: ·) ih

theorem joinOperandsToJson_eq_map (operands : List JoinOperand) :
    joinOperandsToJson operands = operands.map JoinOperand.toJson := by
  induction operands with
  | nil => rfl
  | cons operand rest ih =>
    obtain ⟨dataset, label⟩ := operand
    exact congrArg (JoinOperand.toJson ⟨dataset, label⟩ :: ·) ih

theorem calcItemsToJson_eq_map (items : List CalcItem) :
    calcItemsToJson items = items.map CalcItem.toJson := by
  induction items with
  | nil => rfl
  | cons item rest ih =>
    obtain ⟨name, role, expression⟩ := item
    exact congrArg (CalcItem.toJson ⟨name, role, expression⟩ :: ·) ih

theorem aggregateItemsToJson_eq_map (items : List AggregateItem) :
    aggregateItemsToJson items = items.map AggregateItem.toJson := by
  induction items with
  | nil => rfl
  | cons item rest ih =>
    obtain ⟨name, role, function, operand⟩ := item
    cases operand with
    | none => exact congrArg (AggregateItem.toJson ⟨name, role, function, none⟩ :: ·) ih
    | some operand =>
      exact congrArg (AggregateItem.toJson ⟨name, role, function, some operand⟩ :: ·) ih

/-! ### Leaves -/

theorem Json.Reorders.tagged {f : Json → Json} (h : Reorders f) (tag : String) (content : Json) :
    f (.tagged tag content) = .tagged tag (f content) := h.single tag content

theorem Json.Reorders.depth_tagged {f : Json → Json} (h : Reorders f) {tag : String}
    {content : Json} {depth : Nat} (shallow : (f (.tagged tag content)).depth ≤ depth) :
    (f content).depth ≤ depth := by
  have distinct : (Assoc.names [(tag, content)]).Nodup := List.nodup_singleton tag
  exact h.depth_fields distinct shallow (tag, content) List.mem_cons_self

theorem word?_toNat (n : UInt32) : Json.word? (.integer n.toNat) = some n := by
  have high := n.toNat_lt
  have range : 0 ≤ (n.toNat : Int) ∧ (n.toNat : Int) < 4294967296 := by omega
  rw [Json.word?, if_pos range, Int.toNat_natCast]
  simp

section

variable {f : Json → Json}

theorem Position.readBack (h : Reorders f) (p : Position) :
    Position.ofJson? (f p.toJson) = some p := by
  unfold Position.ofJson? Position.toJson
  rw [h.fields (by rfl) (by decide)]
  simp only [List.map_cons, List.map_nil, h.onAtoms (.integer _) rfl, word?_toNat]
  rfl

theorem Literal.readBack (h : Reorders f) {l : Literal} (finite : l.Finite) :
    Literal.ofJson? (f l.toJson) = some l := by
  cases l with
  | null =>
    rw [Literal.toJson, h.onAtoms (.string _) rfl]
    rfl
  | integer i =>
    rw [Literal.toJson, h.tagged, h.onAtoms (.integer _) rfl]
    change (toInt64? i.toInt).map integer = _
    rw [toInt64?_toInt, Option.map_some]
  | number x =>
    have bounded : x.isFinite := finite
    rw [Literal.toJson, if_pos bounded, h.tagged, h.onAtoms (.float x) rfl]
    rfl
  | boolean b =>
    rw [Literal.toJson, h.tagged, h.onAtoms (.bool b) rfl]
    rfl
  | string s =>
    rw [Literal.toJson, h.tagged, h.onAtoms (.string s) rfl]
    rfl

theorem strings_readBack (h : Reorders f) (names : List String) :
    (f (Json.strings names)).list? Json.string? = some names := by
  refine h.list? fun name _ => ?_
  rw [h.onAtoms _ rfl]
  rfl

theorem label_readBack (h : Reorders f) (label : Option String) :
    Json.optional? Json.string? (some (f (Json.stringOrNull label))) = some label := by
  refine h.optional? rfl fun name _ => ?_
  rw [h.onAtoms _ rfl]
  rfl

theorem role_readBack (h : Reorders f) (role : Option Role) :
    Json.optional? Role.ofJson? (some (f (roleToJson role))) = some role := by
  unfold roleToJson Json.stringOrNull
  rw [Option.map_map]
  refine h.optional? rfl fun role _ => ?_
  rw [h.onAtoms _ rfl]
  exact Role.ofName?_name role

theorem RenameItem.readBack (h : Reorders f) (item : RenameItem) :
    RenameItem.ofJson? (f item.toJson) = some item := by
  unfold RenameItem.ofJson? RenameItem.toJson
  rw [h.fields (by rfl) (by decide)]
  simp only [List.map_cons, List.map_nil, h.onAtoms (.string _) rfl]
  rfl

/-! ### Parts of nodes

A form or clause is read back if the nodes within it are, where they are nested no deeper than is
read.
-/

variable {depth : Nat}

/-- Within a depth that it fits in, the node is read back. -/
def Node.ReadBack (f : Json → Json) (depth : Nat) (node : Node) : Prop :=
  (f node.toJson).depth ≤ depth → Node.ofJsonWithin? depth (f node.toJson) = some node

def Form.ReadBack (f : Json → Json) (depth : Nat) (form : Form) : Prop :=
  (f form.toJson).depth ≤ depth →
    Form.ofJson? (Node.ofJsonWithin? depth) (f form.toJson) = some form

def Clause.ReadBack (f : Json → Json) (depth : Nat) (clause : Clause) : Prop :=
  (f clause.toJson).depth ≤ depth →
    Clause.ofJson? (Node.ofJsonWithin? depth) (f clause.toJson) = some clause

/-- A form is written with a tag that says how its content is read. -/
theorem Form.readBack_of_tagged (h : Reorders f) {form : Form} {tag : String} {content : Json}
    (written : form.toJson = .tagged tag content)
    (read : (f content).depth ≤ depth →
      Form.ofJson? (Node.ofJsonWithin? depth) (.tagged tag (f content)) = some form) :
    form.ReadBack f depth := by
  intro shallow
  rw [written] at shallow ⊢
  have below := h.depth_tagged shallow
  rw [h.tagged]
  exact read below

theorem Clause.readBack_of_tagged (h : Reorders f) {clause : Clause} {tag : String} {content : Json}
    (written : clause.toJson = .tagged tag content)
    (read : (f content).depth ≤ depth →
      Clause.ofJson? (Node.ofJsonWithin? depth) (.tagged tag (f content)) = some clause) :
    clause.ReadBack f depth := by
  intro shallow
  rw [written] at shallow ⊢
  have below := h.depth_tagged shallow
  rw [h.tagged]
  exact read below

theorem literal_readBack (h : Reorders f) {l : Literal} (finite : l.Finite) :
    (Form.literal l).ReadBack f depth := by
  refine Form.readBack_of_tagged h rfl fun _ => ?_
  change (Literal.ofJson? _).map Form.literal = _
  rw [Literal.readBack h finite, Option.map_some]

theorem name_readBack (h : Reorders f) (name : String) : (Form.name name).ReadBack f depth := by
  refine Form.readBack_of_tagged h rfl fun _ => ?_
  rw [h.onAtoms (.string name) rfl]
  rfl

theorem operation_readBack (h : Reorders f) {α : Type} {operator : Json → Option α}
    (wrap : α → BinaryOp) {tag : String} {op : α} (written : operator (.string tag) = some op)
    {left right : Node} (onLeft : left.ReadBack f depth) (onRight : right.ReadBack f depth)
    (shallow : (f (.object [("op", .string tag), ("left", left.toJson),
      ("right", right.toJson)])).depth ≤ depth) :
    binaryOfJson? (Node.ofJsonWithin? depth) operator wrap (f (.object [("op", .string tag),
      ("left", left.toJson), ("right", right.toJson)])) = some (.binary (wrap op) left right) := by
  have below := h.depth_fields (by simp [Assoc.names]) shallow
  have leftRead := onLeft (below ("left", left.toJson) (by simp))
  have rightRead := onRight (below ("right", right.toJson) (by simp))
  unfold binaryOfJson?
  rw [h.fields (by rfl) (by decide)]
  simp only [List.map_cons, List.map_nil, h.onAtoms (.string _) rfl, written, leftRead, rightRead]
  rfl

theorem binary_readBack (h : Reorders f) (op : BinaryOp) {left right : Node}
    (onLeft : left.ReadBack f depth) (onRight : right.ReadBack f depth) :
    (Form.binary op left right).ReadBack f depth := by
  cases op with
  | logical op =>
    refine Form.readBack_of_tagged h rfl fun shallow => ?_
    exact operation_readBack h .logical op.ofJson?_tag onLeft onRight shallow
  | multiplicative op =>
    refine Form.readBack_of_tagged h rfl fun shallow => ?_
    exact operation_readBack h .multiplicative op.ofJson?_tag onLeft onRight shallow
  | additive op =>
    refine Form.readBack_of_tagged h rfl fun shallow => ?_
    exact operation_readBack h .additive op.ofJson?_tag onLeft onRight shallow
  | comparison op =>
    refine Form.readBack_of_tagged h rfl fun shallow => ?_
    exact operation_readBack h .comparison op.ofJson?_tag onLeft onRight shallow

theorem unary_readBack (h : Reorders f) (op : UnaryOp) {operand : Node}
    (onOperand : operand.ReadBack f depth) : (Form.unary op operand).ReadBack f depth := by
  refine Form.readBack_of_tagged h rfl fun shallow => ?_
  have below := h.depth_fields (by simp [Assoc.names]) shallow
  have operandRead := onOperand (below ("operand", operand.toJson) (by simp))
  change unaryOfJson? _ _ = _
  unfold unaryOfJson?
  rw [h.fields (by rfl) (by decide)]
  simp only [List.map_cons, List.map_nil, h.onAtoms (.string _) rfl, UnaryOp.ofJson?_tag,
    operandRead]
  rfl

theorem parenthesis_readBack (h : Reorders f) {inner : Node} (onInner : inner.ReadBack f depth) :
    (Form.parenthesis inner).ReadBack f depth := by
  refine Form.readBack_of_tagged h rfl fun shallow => ?_
  have innerRead := onInner shallow
  change (Node.ofJsonWithin? depth _).map Form.parenthesis = _
  rw [innerRead, Option.map_some]

theorem membership_readBack (h : Reorders f) (negated : Bool) {operand : Node}
    {list : List Literal} (onOperand : operand.ReadBack f depth) (finite : ∀ l ∈ list, l.Finite) :
    (Form.membership negated operand list).ReadBack f depth := by
  refine Form.readBack_of_tagged h rfl fun shallow => ?_
  have below := h.depth_fields (by simp [Assoc.names]) shallow
  have operandRead := onOperand (below ("operand", operand.toJson) (by simp))
  have listRead : (f (.array (list.map Literal.toJson))).list? Literal.ofJson? = some list :=
    h.list? fun l here => Literal.readBack h (finite l here)
  change membershipOfJson? _ _ = _
  unfold membershipOfJson?
  rw [h.fields (by rfl) (by decide)]
  simp only [List.map_cons, List.map_nil, h.onAtoms (.bool _) rfl, operandRead, listRead]
  rfl

theorem conditional_readBack (h : Reorders f) {condition thenBranch elseBranch : Node}
    (onCondition : condition.ReadBack f depth) (onThen : thenBranch.ReadBack f depth)
    (onElse : elseBranch.ReadBack f depth) :
    (Form.conditional condition thenBranch elseBranch).ReadBack f depth := by
  refine Form.readBack_of_tagged h rfl fun shallow => ?_
  have below := h.depth_fields (by simp [Assoc.names]) shallow
  have conditionRead := onCondition (below ("condition", condition.toJson) (by simp))
  have thenRead := onThen (below ("then_branch", thenBranch.toJson) (by simp))
  have elseRead := onElse (below ("else_branch", elseBranch.toJson) (by simp))
  change conditionalOfJson? _ _ = _
  unfold conditionalOfJson?
  rw [h.fields (by rfl) (by decide)]
  simp only [List.map_cons, List.map_nil, conditionRead, thenRead, elseRead]
  rfl

/-- Lists within a node are nested less deeply, and so are their items. -/
theorem list_readBack (h : Reorders f) {α : Type} {decode : Json → Option α} {encode : α → Json}
    {xs : List α} (shallow : (f (.array (xs.map encode))).depth ≤ depth)
    (each : ∀ x ∈ xs, (f (encode x)).depth ≤ depth → decode (f (encode x)) = some x) :
    (f (.array (xs.map encode))).list? decode = some xs := by
  refine h.list? fun x here => each x here ?_
  have below := h.depth_item (List.mem_map_of_mem here : encode x ∈ xs.map encode)
  omega

theorem call_readBack (h : Reorders f) (family : FunctionFamily) (function : String)
    {args : List Node} (onArgs : ∀ arg ∈ args, arg.ReadBack f depth) :
    (Form.call family function args).ReadBack f depth := by
  refine Form.readBack_of_tagged h rfl fun shallow => ?_
  rw [nodesToJson_eq_map] at shallow ⊢
  have below := h.depth_fields (by simp [Assoc.names]) shallow
  have argsRead := list_readBack h (below ("args", .array (args.map Node.toJson)) (by simp)) onArgs
  change callOfJson? _ _ = _
  unfold callOfJson?
  rw [h.fields (by rfl) (by decide)]
  simp only [List.map_cons, List.map_nil, h.onAtoms (.string _) rfl, FunctionFamily.ofJson?_tag,
    argsRead]
  rfl

theorem joinOperand_readBack (h : Reorders f) {operand : JoinOperand}
    (onDataset : operand.dataset.ReadBack f depth)
    (shallow : (f operand.toJson).depth ≤ depth) :
    JoinOperand.ofJson? (Node.ofJsonWithin? depth) (f operand.toJson) = some operand := by
  unfold JoinOperand.toJson at shallow ⊢
  have below := h.depth_fields (by simp [Assoc.names]) shallow
  have datasetRead := onDataset (below ("dataset", operand.dataset.toJson) (by simp))
  unfold JoinOperand.ofJson?
  rw [h.fields (by rfl) (by decide)]
  simp only [List.map_cons, List.map_nil, datasetRead, label_readBack h]
  cases operand
  rfl

theorem join_readBack (h : Reorders f) (kind : JoinKind) (keys : List String)
    {operands : List JoinOperand}
    (onOperands : ∀ operand ∈ operands, operand.dataset.ReadBack f depth) :
    (Form.join kind operands keys).ReadBack f depth := by
  refine Form.readBack_of_tagged h rfl fun shallow => ?_
  rw [joinOperandsToJson_eq_map] at shallow ⊢
  have below := h.depth_fields (by simp [Assoc.names]) shallow
  have operandsRead := list_readBack h
    (below ("operands", .array (operands.map JoinOperand.toJson)) (by simp))
    fun operand here => joinOperand_readBack h (onOperands operand here)
  change joinOfJson? _ _ = _
  unfold joinOfJson?
  rw [h.fields (by rfl) (by decide)]
  simp only [List.map_cons, List.map_nil, h.onAtoms (.string _) rfl, JoinKind.ofJson?_tag,
    operandsRead, Json.listOrEmpty?, strings_readBack h]
  rfl

theorem clause_readBack (h : Reorders f) {dataset : Node} {clause : Clause}
    (onDataset : dataset.ReadBack f depth) (onClause : clause.ReadBack f depth) :
    (Form.clause dataset clause).ReadBack f depth := by
  refine Form.readBack_of_tagged h rfl fun shallow => ?_
  have below := h.depth_fields (by simp [Assoc.names]) shallow
  have datasetRead := onDataset (below ("dataset", dataset.toJson) (by simp))
  have clauseRead := onClause (below ("clause", clause.toJson) (by simp))
  change clauseOfJson? _ _ = _
  unfold clauseOfJson?
  rw [h.fields (by rfl) (by decide)]
  simp only [List.map_cons, List.map_nil, datasetRead, clauseRead]
  rfl

theorem calcItem_readBack (h : Reorders f) {item : CalcItem}
    (onExpression : item.expression.ReadBack f depth) (shallow : (f item.toJson).depth ≤ depth) :
    CalcItem.ofJson? (Node.ofJsonWithin? depth) (f item.toJson) = some item := by
  unfold CalcItem.toJson at shallow ⊢
  have below := h.depth_fields (by simp [Assoc.names]) shallow
  have expressionRead := onExpression (below ("expression", item.expression.toJson) (by simp))
  unfold CalcItem.ofJson?
  rw [h.fields (by rfl) (by decide)]
  simp only [List.map_cons, List.map_nil, h.onAtoms (.string _) rfl, role_readBack h,
    expressionRead]
  cases item
  rfl

theorem calculate_readBack (h : Reorders f) {items : List CalcItem}
    (onItems : ∀ item ∈ items, item.expression.ReadBack f depth) :
    (Clause.calculate items).ReadBack f depth := by
  refine Clause.readBack_of_tagged h rfl fun shallow => ?_
  rw [calcItemsToJson_eq_map] at shallow ⊢
  have itemsRead := list_readBack h shallow
    fun item here => calcItem_readBack h (onItems item here)
  change (Json.list? _ _).map Clause.calculate = _
  rw [itemsRead, Option.map_some]

theorem filter_readBack (h : Reorders f) {predicate : Node}
    (onPredicate : predicate.ReadBack f depth) : (Clause.filter predicate).ReadBack f depth := by
  refine Clause.readBack_of_tagged h rfl fun shallow => ?_
  have predicateRead := onPredicate shallow
  change (Node.ofJsonWithin? depth _).map Clause.filter = _
  rw [predicateRead, Option.map_some]

theorem rename_readBack (h : Reorders f) (items : List RenameItem) :
    (Clause.rename items).ReadBack f depth := by
  refine Clause.readBack_of_tagged h rfl fun _ => ?_
  have itemsRead : (f (.array (items.map RenameItem.toJson))).list? RenameItem.ofJson? =
      some items := h.list? fun item _ => RenameItem.readBack h item
  change (Json.list? _ _).map Clause.rename = _
  rw [itemsRead, Option.map_some]

theorem keep_readBack (h : Reorders f) (names : List String) :
    (Clause.keep names).ReadBack f depth := by
  refine Clause.readBack_of_tagged h rfl fun _ => ?_
  change (Json.list? _ _).map Clause.keep = _
  rw [strings_readBack h, Option.map_some]

theorem drop_readBack (h : Reorders f) (names : List String) :
    (Clause.drop names).ReadBack f depth := by
  refine Clause.readBack_of_tagged h rfl fun _ => ?_
  change (Json.list? _ _).map Clause.drop = _
  rw [strings_readBack h, Option.map_some]

theorem aggregateItem_readBack (h : Reorders f) {item : AggregateItem}
    (onOperand : ∀ operand ∈ item.operand, operand.ReadBack f depth)
    (shallow : (f item.toJson).depth ≤ depth) :
    AggregateItem.ofJson? (Node.ofJsonWithin? depth) (f item.toJson) = some item := by
  unfold AggregateItem.toJson at shallow ⊢
  have below := h.depth_fields (by simp [Assoc.names]) shallow
  have operandBelow := below ("operand", (item.operand.map Node.toJson).getD .null) (by simp)
  have nullUnread : Node.ofJsonWithin? depth .null = none := by cases depth <;> rfl
  have operandRead : Json.optional? (Node.ofJsonWithin? depth)
      (some (f ((item.operand.map Node.toJson).getD .null))) = some item.operand := by
    refine h.optional? nullUnread fun operand given => onOperand operand given ?_
    rwa [Option.mem_def.mp given] at operandBelow
  unfold AggregateItem.ofJson?
  rw [h.fields (by rfl) (by decide)]
  simp only [List.map_cons, List.map_nil, h.onAtoms (.string _) rfl, role_readBack h,
    AggregateFunction.ofJson?_tag, operandRead]
  cases item
  rfl

theorem aggregate_readBack (h : Reorders f) (groupBy : List String) {items : List AggregateItem}
    (onItems : ∀ item ∈ items, ∀ operand ∈ item.operand, operand.ReadBack f depth) :
    (Clause.aggregate items groupBy).ReadBack f depth := by
  refine Clause.readBack_of_tagged h rfl fun shallow => ?_
  rw [aggregateItemsToJson_eq_map] at shallow ⊢
  have below := h.depth_fields (by simp [Assoc.names]) shallow
  have itemsRead := list_readBack h
    (below ("items", .array (items.map AggregateItem.toJson)) (by simp))
    fun item here => aggregateItem_readBack h (onItems item here)
  change aggregateOfJson? _ _ = _
  unfold aggregateOfJson?
  rw [h.fields (by rfl) (by decide)]
  simp only [List.map_cons, List.map_nil, itemsRead, Json.listOrEmpty?, strings_readBack h]
  rfl

/-! ### Nodes -/

theorem depth_form_lt (h : Reorders f) (form : Form) (position : Option Position) :
    (f form.toJson).depth < (f (Node.toJson ⟨form, position⟩)).depth := by
  cases position with
  | none =>
    unfold Node.toJson
    exact h.depth_member (by simp [Assoc.names]) List.mem_cons_self
  | some p =>
    unfold Node.toJson
    exact h.depth_member (by simp [Assoc.names]) List.mem_cons_self

theorem node_readBack (h : Reorders f) {form : Form} (position : Option Position)
    (onForm : ∀ depth, form.ReadBack f depth) : Node.ReadBack f depth ⟨form, position⟩ := by
  intro shallow
  have below := depth_form_lt h form position
  obtain ⟨inside, rfl⟩ : ∃ inside, depth = inside + 1 := ⟨depth - 1, by omega⟩
  have formRead := onForm inside (by omega)
  cases position with
  | none =>
    unfold Node.ofJsonWithin? Node.toJson
    rw [h.record? (by simp [Assoc.names])]
    simp [Assoc.find?_cons, formRead, Json.optional?]
  | some p =>
    have positionRead : Json.optional? Position.ofJson?
        (some (f (((some p).map Position.toJson).getD .null))) = some (some p) :=
      h.optional? rfl fun p _ => Position.readBack h p
    rw [Option.map_some, Option.getD_some] at positionRead
    unfold Node.ofJsonWithin? Node.toJson
    rw [h.record? (by simp [Assoc.names])]
    simp [Assoc.find?_cons, formRead, positionRead]

mutual

/-- Nodes within a node are left one level less, so the depth is any. -/
theorem Node.readBack (h : Reorders f) : (node : Node) → node.Finite → ∀ depth,
    node.ReadBack f depth
  | ⟨form, position⟩, finite, _ => node_readBack h position (form.readBack h finite)

theorem Form.readBack (h : Reorders f) : (form : Form) → form.Finite → ∀ depth,
    form.ReadBack f depth
  | .literal _, finite, _ => literal_readBack h finite
  | .name name, _, _ => name_readBack h name
  | .binary op left right, ⟨onLeft, onRight⟩, depth =>
    binary_readBack h op (left.readBack h onLeft depth) (right.readBack h onRight depth)
  | .unary op operand, finite, depth => unary_readBack h op (operand.readBack h finite depth)
  | .parenthesis inner, finite, depth => parenthesis_readBack h (inner.readBack h finite depth)
  | .membership negated operand _, ⟨onOperand, onList⟩, depth =>
    membership_readBack h negated (operand.readBack h onOperand depth) onList
  | .conditional condition thenBranch elseBranch, ⟨onCondition, onThen, onElse⟩, depth =>
    conditional_readBack h (condition.readBack h onCondition depth)
      (thenBranch.readBack h onThen depth) (elseBranch.readBack h onElse depth)
  | .call family function args, finite, depth =>
    call_readBack h family function (arguments_readBack h args finite depth)
  | .join kind operands keys, finite, depth =>
    join_readBack h kind keys (operands_readBack h operands finite depth)
  | .clause dataset clause, ⟨onDataset, onClause⟩, depth =>
    clause_readBack h (dataset.readBack h onDataset depth) (clause.readBack h onClause depth)

theorem arguments_readBack (h : Reorders f) : (args : List Node) → finiteArguments args →
    ∀ depth, ∀ arg ∈ args, arg.ReadBack f depth
  | [], _, _ => List.forall_mem_nil _
  | node :: rest, ⟨first, later⟩, depth =>
    List.forall_mem_cons.mpr ⟨node.readBack h first depth, arguments_readBack h rest later depth⟩

theorem operands_readBack (h : Reorders f) : (operands : List JoinOperand) →
    finiteOperands operands → ∀ depth, ∀ operand ∈ operands, operand.dataset.ReadBack f depth
  | [], _, _ => List.forall_mem_nil _
  | ⟨dataset, _⟩ :: rest, ⟨first, later⟩, depth =>
    List.forall_mem_cons.mpr ⟨dataset.readBack h first depth, operands_readBack h rest later depth⟩

theorem Clause.readBack (h : Reorders f) : (clause : Clause) → clause.Finite → ∀ depth,
    clause.ReadBack f depth
  | .calculate items, finite, depth =>
    calculate_readBack h (calculations_readBack h items finite depth)
  | .filter predicate, finite, depth => filter_readBack h (predicate.readBack h finite depth)
  | .rename items, _, _ => rename_readBack h items
  | .keep names, _, _ => keep_readBack h names
  | .drop names, _, _ => drop_readBack h names
  | .aggregate items groupBy, finite, depth =>
    aggregate_readBack h groupBy (collections_readBack h items finite depth)

theorem calculations_readBack (h : Reorders f) : (items : List CalcItem) →
    finiteCalculations items → ∀ depth, ∀ item ∈ items, item.expression.ReadBack f depth
  | [], _, _ => List.forall_mem_nil _
  | ⟨_, _, expression⟩ :: rest, ⟨first, later⟩, depth =>
    List.forall_mem_cons.mpr
      ⟨expression.readBack h first depth, calculations_readBack h rest later depth⟩

theorem collections_readBack (h : Reorders f) : (items : List AggregateItem) →
    finiteCollections items →
      ∀ depth, ∀ item ∈ items, ∀ operand ∈ item.operand, operand.ReadBack f depth
  | [], _, _ => List.forall_mem_nil _
  | ⟨_, _, _, none⟩ :: rest, finite, depth =>
    List.forall_mem_cons.mpr ⟨fun _ absent => (Option.not_mem_none _ absent).elim,
      collections_readBack h rest finite depth⟩
  | ⟨_, _, _, some operand⟩ :: rest, ⟨first, later⟩, depth =>
    List.forall_mem_cons.mpr ⟨fun _ given => Option.some.inj given ▸ operand.readBack h first depth,
      collections_readBack h rest later depth⟩

end

/-! ### Programs -/

theorem Statement.readBack (h : Reorders f) {s : Statement} (finite : s.expression.Finite) :
    Statement.ofJson? (f s.toJson) = some s := by
  have expressionRead : Node.ofJson? (f s.expression.toJson) = some s.expression :=
    s.expression.readBack h finite _ Nat.le.refl
  unfold Statement.ofJson? Statement.toJson
  rw [h.tagged]
  simp only [Json.tagged, Json.variant?]
  rw [h.fields (by rfl) (by decide)]
  simp only [List.map_cons, List.map_nil, h.onAtoms (.string _) rfl, expressionRead]
  rfl

theorem Program.readBack (h : Reorders f) {p : Program} (finite : p.Finite) :
    Program.ofJson? (f p.toJson) = some p := by
  have statementsRead : (f (.array (p.map Statement.toJson))).list? Statement.ofJson? = some p :=
    h.list? fun s here => Statement.readBack h (finite s here)
  unfold Program.ofJson? Program.toJson
  rw [h.fields (by rfl) (by decide)]
  simp only [List.map_cons, List.map_nil, statementsRead]

end

/-- A program is read back from the tree that it is written as, and from that tree with the members
of its objects sorted by name. -/
theorem Program.decode_toJson {p : Program} (finite : p.Finite) :
    Program.ofJson? p.toJson = some p ∧ Program.ofJson? p.toJson.canonical = some p :=
  ⟨Program.readBack Json.reorders_id finite, Program.readBack Json.reorders_canonical finite⟩

/-- `t := inner_join(d as a, e using id)[calc h := x * 0.5][aggr Measure n := count(), s := sum(h)
group by id]`, with a few positions. -/
def joinedTotals : Program :=
  let joined : Node := ⟨.join .inner [⟨⟨.name "d", some ⟨1, 17⟩⟩, some "a"⟩, ⟨⟨.name "e", none⟩, none⟩]
    ["id"], none⟩
  let product : Node := ⟨.binary (.multiplicative .mul) ⟨.name "x", none⟩
    ⟨.literal (.number 0.5), some ⟨1, 54⟩⟩, none⟩
  let halved : Node := ⟨.clause joined (.calculate [⟨"h", none, product⟩]), none⟩
  [⟨"t", ⟨.clause halved (.aggregate [⟨"n", some .measure, .count, none⟩,
    ⟨"s", none, .sum, some ⟨.name "h", none⟩⟩] ["id"]), some ⟨1, 6⟩⟩⟩]

theorem joinedTotals_decoded : joinedTotals.Finite ∧
    Program.ofJson? joinedTotals.toJson = some joinedTotals ∧
      Program.ofJson? joinedTotals.toJson.canonical = some joinedTotals := by
  have half : (0.5 : Float).isFinite := by decide
  have finite : joinedTotals.Finite := by
    simp [joinedTotals, Program.Finite, Node.Finite, Form.Finite, Clause.Finite, Literal.Finite,
      finiteOperands, finiteCalculations, finiteCollections, half]
  exact ⟨finite, Program.decode_toJson finite⟩

end DatasetScript
