import DatasetScript.Proofs.ClauseAgreement
import DatasetScript.Proofs.FreeNames
/-!
# Parentheses

Parentheses around a node are of no account, except in the name of a join operand that goes by its
text. They make a pattern that is a literal into one that is computed, which is why literals are read
when a call is checked but do not fail before it is resolved. Main statement:
`parentheses_transparent`.
-/

namespace DatasetScript

/-! ### Parentheses put around nodes -/

mutual

/-- The second tree is the first one with parentheses around some of its nodes. Join operands without
an alias are left as they are. -/
inductive Node.Wraps : Node → Node → Prop
  | keep {form form' : Form} (p : Option Position) (h : form.Wraps form') :
    Node.Wraps ⟨form, p⟩ ⟨form', p⟩
  | wrap {node node' : Node} (p : Option Position) (h : node.Wraps node') :
    Node.Wraps node ⟨.parenthesis node', p⟩

inductive Form.Wraps : Form → Form → Prop
  | literal (l : Literal) : Form.Wraps (.literal l) (.literal l)
  | name (name : String) : Form.Wraps (.name name) (.name name)
  | binary (op : BinaryOp) {left left' right right' : Node} (first : left.Wraps left')
    (second : right.Wraps right') : Form.Wraps (.binary op left right) (.binary op left' right')
  | unary (op : UnaryOp) {operand operand' : Node} (h : operand.Wraps operand') :
    Form.Wraps (.unary op operand) (.unary op operand')
  | parenthesis {inner inner' : Node} (h : inner.Wraps inner') :
    Form.Wraps (.parenthesis inner) (.parenthesis inner')
  | membership (negated : Bool) (list : List Literal) {operand operand' : Node}
    (h : operand.Wraps operand') :
    Form.Wraps (.membership negated operand list) (.membership negated operand' list)
  | conditional {condition condition' thenBranch thenBranch' elseBranch elseBranch' : Node}
    (first : condition.Wraps condition') (second : thenBranch.Wraps thenBranch')
    (third : elseBranch.Wraps elseBranch') :
    Form.Wraps (.conditional condition thenBranch elseBranch)
      (.conditional condition' thenBranch' elseBranch')
  | call (family : FunctionFamily) (function : String) {args args' : List Node}
    (h : ArgumentsWrap args args') :
    Form.Wraps (.call family function args) (.call family function args')
  | join (kind : JoinKind) (keys : List String) {operands operands' : List JoinOperand}
    (h : OperandsWrap operands operands') :
    Form.Wraps (.join kind operands keys) (.join kind operands' keys)
  | clause {dataset dataset' : Node} {clause clause' : Clause} (first : dataset.Wraps dataset')
    (second : clause.Wraps clause') : Form.Wraps (.clause dataset clause) (.clause dataset' clause')

inductive ArgumentsWrap : List Node → List Node → Prop
  | nil : ArgumentsWrap [] []
  | cons {node node' : Node} {rest rest' : List Node} (first : node.Wraps node')
    (others : ArgumentsWrap rest rest') : ArgumentsWrap (node :: rest) (node' :: rest')

inductive OperandsWrap : List JoinOperand → List JoinOperand → Prop
  | nil : OperandsWrap [] []
  | unnamed (dataset : Node) {rest rest' : List JoinOperand} (others : OperandsWrap rest rest') :
    OperandsWrap (⟨dataset, none⟩ :: rest) (⟨dataset, none⟩ :: rest')
  | named (label : String) {dataset dataset' : Node} {rest rest' : List JoinOperand}
    (first : dataset.Wraps dataset') (others : OperandsWrap rest rest') :
    OperandsWrap (⟨dataset, some label⟩ :: rest) (⟨dataset', some label⟩ :: rest')

inductive Clause.Wraps : Clause → Clause → Prop
  | calculate {items items' : List CalcItem} (h : CalculationsWrap items items') :
    Clause.Wraps (.calculate items) (.calculate items')
  | filter {predicate predicate' : Node} (h : predicate.Wraps predicate') :
    Clause.Wraps (.filter predicate) (.filter predicate')
  | rename (items : List RenameItem) : Clause.Wraps (.rename items) (.rename items)
  | keep (names : List String) : Clause.Wraps (.keep names) (.keep names)
  | drop (names : List String) : Clause.Wraps (.drop names) (.drop names)
  | aggregate (groupBy : List String) {items items' : List AggregateItem}
    (h : CollectionsWrap items items') :
    Clause.Wraps (.aggregate items groupBy) (.aggregate items' groupBy)

inductive CalculationsWrap : List CalcItem → List CalcItem → Prop
  | nil : CalculationsWrap [] []
  | cons (name : String) (role : Option Role) {expression expression' : Node}
    {rest rest' : List CalcItem} (first : expression.Wraps expression')
    (others : CalculationsWrap rest rest') :
    CalculationsWrap (⟨name, role, expression⟩ :: rest) (⟨name, role, expression'⟩ :: rest')

inductive CollectionsWrap : List AggregateItem → List AggregateItem → Prop
  | nil : CollectionsWrap [] []
  | bare (name : String) (role : Option Role) (function : AggregateFunction)
    {rest rest' : List AggregateItem} (others : CollectionsWrap rest rest') :
    CollectionsWrap (⟨name, role, function, none⟩ :: rest) (⟨name, role, function, none⟩ :: rest')
  | applied (name : String) (role : Option Role) (function : AggregateFunction)
    {operand operand' : Node} {rest rest' : List AggregateItem} (first : operand.Wraps operand')
    (others : CollectionsWrap rest rest') :
    CollectionsWrap (⟨name, role, function, some operand⟩ :: rest)
      (⟨name, role, function, some operand'⟩ :: rest')

end

/-! ### Checking with and without them -/

section

variable [PatternLanguage]

theorem wrapped_operand_agree {scope : Scope} {node node' : Node}
    (h : ChecksAgree .kind Eq (node.check scope) (node'.check scope)) :
    Operand.Agree .kind Eq ⟨node, node.check scope⟩ ⟨node', node'.check scope⟩ :=
  operand_agree (Likeness.kind_loose.nodes node node') h

mutual

theorem Node.Wraps.agree (scope : Scope) {node node' : Node} :
    node.Wraps node' → ChecksAgree .kind Eq (node.check scope) (node'.check scope)
  | .keep _ h => form_agree _ _ (Likeness.kind_loose.positions _ _) (h.agree scope)
  | .wrap p h => form_agree_right Likeness.kind_loose (.parenthesis _) p (h.agree scope)

theorem Form.Wraps.agree (scope : Scope) {form form' : Form} :
    form.Wraps form' → ChecksAgree .kind Eq (form.check scope) (form'.check scope)
  | .literal l => literal_agree l
  | .name _ => variableNamed_agree rfl fun _ _ same => same ▸ rfl
  | .binary op first second =>
    binary_agree op (wrapped_operand_agree (first.agree scope))
      (wrapped_operand_agree (second.agree scope))
  | .unary op h => unary_agree op (wrapped_operand_agree (h.agree scope))
  | .parenthesis h => h.agree scope
  | .membership negated list h =>
    membership_agree negated list (wrapped_operand_agree (h.agree scope))
  | .conditional first second third =>
    conditional_agree (wrapped_operand_agree (first.agree scope))
      (wrapped_operand_agree (second.agree scope))
      (wrapped_operand_agree (third.agree scope))
  | .call family function h => call_agree family function (h.agree scope)
  | .join kind keys h => join_agree kind keys (h.agree scope)
  | .clause first second => by
    have input := query_agree (wrapped_operand_agree (first.agree scope))
    refine input.bind fun q r queries => ?_
    exact (second.agree queries).bind fun _ _ results => Expr.Agree.query results

theorem ArgumentsWrap.agree (scope : Scope) {args args' : List Node} : ArgumentsWrap args args' →
    List.Forall₂ (Operand.Agree .kind Eq) (checkArguments scope args) (checkArguments scope args')
  | .nil => .nil
  | .cons first others =>
    .cons (wrapped_operand_agree (first.agree scope)) (others.agree scope)

theorem OperandsWrap.agree (scope : Scope) {operands operands' : List JoinOperand} :
    OperandsWrap operands operands' →
      List.Forall₂ (JoinOperandsAgree .kind Eq) (checkJoinOperands scope operands)
        (checkJoinOperands scope operands')
  | .nil => .nil
  | .unnamed dataset others =>
    .cons ⟨operand_agree (Likeness.kind_reflexive.nodes dataset)
        (checks_agree_self Likeness.kind_reflexive _), rfl⟩
      (others.agree scope)
  | .named _ first others =>
    .cons ⟨wrapped_operand_agree (first.agree scope), rfl⟩ (others.agree scope)

theorem Clause.Wraps.agree {q r : Query} (h : q.Agree .kind Eq r) {clause clause' : Clause} :
    clause.Wraps clause' →
      Agree .kind (Query.Agree .kind Eq) (clause.check q) (clause'.check r)
  | .calculate items => by
    unfold Clause.check
    rw [← h.1]
    exact calculate_agree h (items.agree q.layout.scope)
  | .filter predicate => by
    unfold Clause.check
    rw [← h.1]
    exact filter_agree h (wrapped_operand_agree (predicate.agree q.layout.scope))
  | .rename items => rename_agree h items
  | .keep names => project_agree h names
  | .drop names => drop_agree h names
  | .aggregate groupBy items => by
    unfold Clause.check
    rw [← h.1]
    exact aggregate_agree h (items.agree q.layout.scope) groupBy

theorem CalculationsWrap.agree (scope : Scope) {items items' : List CalcItem} :
    CalculationsWrap items items' →
      List.Forall₂ (Checking.Calculation.Agree .kind) (checkCalculations scope items)
        (checkCalculations scope items')
  | .nil => .nil
  | .cons _ _ first others =>
    .cons ⟨rfl, rfl, wrapped_operand_agree (first.agree scope)⟩ (others.agree scope)

theorem CollectionsWrap.agree (scope : Scope) {items items' : List AggregateItem} :
    CollectionsWrap items items' →
      List.Forall₂ (Checking.Collection.Agree .kind) (checkCollections scope items)
        (checkCollections scope items')
  | .nil => .nil
  | .bare _ _ _ others => .cons ⟨rfl, rfl, rfl, .none⟩ (others.agree scope)
  | .applied _ _ _ first others =>
    .cons ⟨rfl, rfl, rfl, .some (wrapped_operand_agree (first.agree scope))⟩
      (others.agree scope)

end

/-! ### Main statement -/

/-- With parentheses put around nodes, other than join operands that go by their texts, a tree still
fails to be checked for a cause of the same kind or is checked to an expression of the same type and
structure, which gives the same value or fails for a cause of the same kind in every environment. A
text literal in the place of a pattern stands for what would be read from it on resolving. -/
theorem parentheses_transparent :
    (∀ (node node' : Node) (scope : Scope), node.Wraps node' →
      (∃ e e', node.check scope = .error e ∧ node'.check scope = .error e' ∧
          e.cause.kind = e'.cause.kind) ∨
        ∃ e e', node.check scope = .ok e ∧ node'.check scope = .ok e' ∧ e.type? = e'.type? ∧
          e.layout? = e'.layout? ∧
          ∀ env, (∃ v, e.resolve env = .ok v ∧ e'.resolve env = .ok v) ∨
            ∃ error error', e.resolve env = .error error ∧ e'.resolve env = .error error' ∧
              error.cause.kind = error'.cause.kind) ∧
      ∀ (extend : String → String) (node : Node) (scope : Scope) (f : Formula .string),
        Operand.formula .string ⟨node, node.check scope⟩ = .ok f →
          Checking.patternOf extend node f = Checking.compilePattern extend f := by
  constructor
  · intro node node' scope wraps
    refine (wraps.agree scope).alike.imp_right ?_
    rintro ⟨e, e', checked, checked', expressions⟩
    refine ⟨e, e', checked, checked', expressions.type_eq, expressions.layout?_eq, fun env => ?_⟩
    refine (expressions.resolve (rfl : env = env)).alike.symm.imp_left ?_
    rintro ⟨v, _, resolved, resolved', rfl⟩
    exact ⟨v, resolved, resolved'⟩
  · intro extend node scope f checked
    exact patternOf_eq extend (check_faithful scope node) checked

end

namespace Unreadable

/-- A text that is no pattern. -/
def pattern : Node := ⟨.literal (.string "["), some ⟨1, 15⟩⟩

/-- The call `replace(null, pattern)`. -/
def call (pattern : Node) : Node :=
  ⟨.call .string "replace" [⟨.literal .null, none⟩, pattern], none⟩

/-- The call `replace(null, (pattern))`. -/
def wrapped : Node := call ⟨.parenthesis pattern, none⟩

theorem call_wraps : (call pattern).Wraps wrapped :=
  .keep none (.call .string "replace"
    (.cons (.keep none (.literal .null)) (.cons (.wrap none (.keep _ (.literal _))) .nil)))

theorem call_fails :
    ((call pattern).check (fun _ => none) >>= fun e => e.resolve fun _ => none).isOk = false := by
  decide +kernel

end Unreadable

open Unreadable in
/-- Read or computed, the pattern fails on resolving, though the text to search is NULL. -/
theorem unreadable_pattern_wrapped :
    (call pattern).Wraps wrapped ∧
      ∃ e e', (call pattern).check (fun _ => none) = .ok e ∧ wrapped.check (fun _ => none) = .ok e' ∧
        ∃ error error', e.resolve (fun _ => none) = .error error ∧
          e'.resolve (fun _ => none) = .error error' ∧ error.cause.kind = error'.cause.kind := by
  refine ⟨call_wraps, ?_⟩
  obtain ⟨_, _, failed, -⟩ | ⟨e, e', checked, checked', -, -, resolved⟩ :=
    parentheses_transparent.1 _ _ (fun _ => none) call_wraps
  · cases failed
  · refine ⟨e, e', checked, checked', (resolved _).resolve_left ?_⟩
    rintro ⟨v, read, -⟩
    have fails := call_fails
    rw [checked, ok_bind, read] at fails
    cases fails

end DatasetScript
