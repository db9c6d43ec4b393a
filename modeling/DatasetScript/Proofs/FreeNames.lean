import DatasetScript.Proofs.DatasetAgreement
/-!
# Free names

The free names of a node are those that stand for variables around it: names in the expressions of
a clause stand for columns. A node may be checked and resolved with other declarations, values or
nodes for its free names, and nothing changes as long as the names themselves agree. Main
statements: `Node.substitute_agree` for nodes in place of names, and `only_freeNames_matter`.
-/

namespace DatasetScript

/-! ### Names in nodes -/

mutual

/-- The names outside the expressions of clauses. -/
def Node.freeNames : Node → List String
  | ⟨form, _⟩ => form.freeNames

def Form.freeNames : Form → List String
  | .literal _ => []
  | .name name => [name]
  | .binary _ left right => left.freeNames ++ right.freeNames
  | .unary _ operand => operand.freeNames
  | .parenthesis inner => inner.freeNames
  | .membership _ operand _ => operand.freeNames
  | .conditional condition thenBranch elseBranch =>
    condition.freeNames ++ (thenBranch.freeNames ++ elseBranch.freeNames)
  | .call _ _ args => argumentNames args
  | .join _ operands _ => operandNames operands
  | .clause dataset _ => dataset.freeNames

def argumentNames : List Node → List String
  | [] => []
  | node :: rest => node.freeNames ++ argumentNames rest

def operandNames : List JoinOperand → List String
  | [] => []
  | ⟨dataset, _⟩ :: rest => dataset.freeNames ++ operandNames rest

end

mutual

/-- The operands of joins that go by their texts, outside the expressions of clauses. -/
def Node.unnamedOperands : Node → List Node
  | ⟨form, _⟩ => form.unnamedOperands

def Form.unnamedOperands : Form → List Node
  | .literal _ | .name _ => []
  | .binary _ left right => left.unnamedOperands ++ right.unnamedOperands
  | .unary _ operand => operand.unnamedOperands
  | .parenthesis inner => inner.unnamedOperands
  | .membership _ operand _ => operand.unnamedOperands
  | .conditional condition thenBranch elseBranch =>
    condition.unnamedOperands ++ (thenBranch.unnamedOperands ++ elseBranch.unnamedOperands)
  | .call _ _ args => unnamedInArguments args
  | .join _ operands _ => unnamedInOperands operands
  | .clause dataset _ => dataset.unnamedOperands

def unnamedInArguments : List Node → List Node
  | [] => []
  | node :: rest => node.unnamedOperands ++ unnamedInArguments rest

def unnamedInOperands : List JoinOperand → List Node
  | [] => []
  | ⟨dataset, none⟩ :: rest => dataset :: (dataset.unnamedOperands ++ unnamedInOperands rest)
  | ⟨dataset, some _⟩ :: rest => dataset.unnamedOperands ++ unnamedInOperands rest

end

/-! ### Substitution -/

/-- What is put in the place of each name. Other names stay. -/
abbrev Substitution := String → Option Node

/-- The node that a form is replaced by. -/
def Form.replacement? (σ : Substitution) : Form → Option Node
  | .name x => σ x
  | _ => none

mutual

/-- Puts nodes in the place of free names. -/
def Node.substitute (σ : Substitution) : Node → Node
  | ⟨form, position⟩ => (form.replacement? σ).getD ⟨form.substitute σ, position⟩

def Form.substitute (σ : Substitution) : Form → Form
  | .literal l => .literal l
  | .name name => .name name
  | .binary op left right => .binary op (left.substitute σ) (right.substitute σ)
  | .unary op operand => .unary op (operand.substitute σ)
  | .parenthesis inner => .parenthesis (inner.substitute σ)
  | .membership negated operand list => .membership negated (operand.substitute σ) list
  | .conditional condition thenBranch elseBranch =>
    .conditional (condition.substitute σ) (thenBranch.substitute σ) (elseBranch.substitute σ)
  | .call family function args => .call family function (substituteArguments σ args)
  | .join kind operands keys => .join kind (substituteOperands σ operands) keys
  | .clause dataset clause => .clause (dataset.substitute σ) clause

def substituteArguments (σ : Substitution) : List Node → List Node
  | [] => []
  | node :: rest => node.substitute σ :: substituteArguments σ rest

def substituteOperands (σ : Substitution) : List JoinOperand → List JoinOperand
  | [] => []
  | ⟨dataset, label⟩ :: rest => ⟨dataset.substitute σ, label⟩ :: substituteOperands σ rest

end

section

variable {σ : Substitution}

/-- Nothing is put in the place of any of the names. -/
def Substitution.Keeps (σ : Substitution) (names : List String) : Prop :=
  ∀ name ∈ names, σ name = none

theorem keeps_append {names others : List String} :
    σ.Keeps (names ++ others) ↔ σ.Keeps names ∧ σ.Keeps others := List.forall_mem_append

mutual

theorem Node.substitute_eq_self : (node : Node) → σ.Keeps node.freeNames → node.substitute σ = node
  | ⟨form, position⟩, keeps => by
    have unreplaced : form.replacement? σ = none := by
      cases form with
      | name name => exact keeps name List.mem_cons_self
      | _ => rfl
    unfold Node.substitute
    rw [unreplaced, form.substitute_eq_self keeps]
    rfl

theorem Form.substitute_eq_self : (form : Form) → σ.Keeps form.freeNames → form.substitute σ = form
  | .literal _, _ => rfl
  | .name _, _ => rfl
  | .binary op left right, keeps => by
    obtain ⟨first, second⟩ := keeps_append.mp keeps
    unfold Form.substitute
    rw [left.substitute_eq_self first, right.substitute_eq_self second]
  | .unary op operand, keeps => congrArg (Form.unary op) (operand.substitute_eq_self keeps)
  | .parenthesis inner, keeps => congrArg Form.parenthesis (inner.substitute_eq_self keeps)
  | .membership negated operand list, keeps =>
    congrArg (Form.membership negated · list) (operand.substitute_eq_self keeps)
  | .conditional condition thenBranch elseBranch, keeps => by
    obtain ⟨first, others⟩ := keeps_append.mp keeps
    obtain ⟨second, third⟩ := keeps_append.mp others
    unfold Form.substitute
    rw [condition.substitute_eq_self first, thenBranch.substitute_eq_self second,
      elseBranch.substitute_eq_self third]
  | .call family function args, keeps =>
    congrArg (Form.call family function) (substituteArguments_eq_self args keeps)
  | .join kind operands keys, keeps =>
    congrArg (Form.join kind · keys) (substituteOperands_eq_self operands keeps)
  | .clause dataset clause, keeps =>
    congrArg (Form.clause · clause) (dataset.substitute_eq_self keeps)

theorem substituteArguments_eq_self : (args : List Node) → σ.Keeps (argumentNames args) →
    substituteArguments σ args = args
  | [], _ => rfl
  | node :: rest, keeps => by
    obtain ⟨first, later⟩ := keeps_append.mp keeps
    unfold substituteArguments
    rw [node.substitute_eq_self first, substituteArguments_eq_self rest later]

theorem substituteOperands_eq_self : (operands : List JoinOperand) →
    σ.Keeps (operandNames operands) → substituteOperands σ operands = operands
  | [], _ => rfl
  | ⟨dataset, label⟩ :: rest, keeps => by
    obtain ⟨first, later⟩ := keeps_append.mp keeps
    unfold substituteOperands
    rw [dataset.substitute_eq_self first, substituteOperands_eq_self rest later]

end

end

/-! ### Names that agree -/

section

variable {like : Likeness} {pair : Env → Env → Prop} {scope scope' : Scope} {σ : Substitution}

theorem boundDataset_congr {name : String} {env env' : Env} (declared : Structure)
    (same : env name = env' name) :
    Checking.boundDataset name declared env = Checking.boundDataset name declared env' := by
  unfold Checking.boundDataset
  rw [same]

theorem boundValue_congr {name : String} {env env' : Env} (same : env name = env' name) :
    Checking.boundValue name env = Checking.boundValue name env' := by
  unfold Checking.boundValue
  rw [same]

theorem variableNamed_agree {name : String} (declared : scope name = scope' name)
    (bound : ∀ env env', pair env env' → env name = env' name) :
    ChecksAgree like pair (Checking.variableNamed scope name)
      (Checking.variableNamed scope' name) := by
  unfold Checking.variableNamed
  rw [← declared]
  split
  · exact .same_error _ rfl
  · exact Expr.Agree.null
  · refine ofValues_agree _ fun env env' paired => ?_
    rw [boundValue_congr (bound env env' paired)]
    exact .unplaced (.boundValue name env')
  · refine Expr.Agree.query ⟨rfl, fun env env' paired => ?_⟩
    dsimp only
    rw [boundDataset_congr _ (bound env env' paired)]
    exact .unplaced (.boundDataset name _ env')

/-- Operands of joins that go by their texts stay as they are. -/
def Substitution.KeepsTexts (σ : Substitution) (operands : List Node) : Prop :=
  ∀ operand ∈ operands, σ.Keeps operand.freeNames

theorem keepsTexts_append {operands others : List Node} :
    σ.KeepsTexts (operands ++ others) ↔ σ.KeepsTexts operands ∧ σ.KeepsTexts others :=
  List.forall_mem_append

variable [PatternLanguage]

variable (like pair scope scope' σ) in
/-- Each name agrees with what is put in its place, wherever it stands. -/
def NamesAgree (names : List String) : Prop :=
  ∀ name ∈ names, ∀ position, ChecksAgree like pair (Node.check scope ⟨.name name, position⟩)
    (Node.check scope' (Node.substitute σ ⟨.name name, position⟩))

theorem namesAgree_append {names others : List String} :
    NamesAgree like pair scope scope' σ (names ++ others) ↔
      NamesAgree like pair scope scope' σ names ∧ NamesAgree like pair scope scope' σ others :=
  List.forall_mem_append

theorem operand_agree {node node' : Node} (nodes : like.Nodes node node')
    (h : ChecksAgree like pair (node.check scope) (node'.check scope')) :
    Operand.Agree like pair ⟨node, node.check scope⟩ ⟨node', node'.check scope'⟩ :=
  ⟨nodes, h, check_faithful scope node, check_faithful scope' node'⟩

/-- Errors about what is put in the place of a node are like errors about the node. -/
structure Substitution.Blends (σ : Substitution) (like : Likeness) : Prop where
  reflexive : like.Reflexive
  nodes (node : Node) : like.Nodes node (node.substitute σ)

theorem Substitution.Blends.operand (blends : σ.Blends like) {node : Node}
    (h : ChecksAgree like pair (node.check scope) ((node.substitute σ).check scope')) :
    Operand.Agree like pair ⟨node, node.check scope⟩
      ⟨node.substitute σ, (node.substitute σ).check scope'⟩ :=
  operand_agree (blends.nodes node) h

mutual

/-- Where each free name agrees with what is put in its place, so does the node. -/
theorem Node.substitute_agree (blends : σ.Blends like) : (node : Node) →
    NamesAgree like pair scope scope' σ node.freeNames → σ.KeepsTexts node.unnamedOperands →
      ChecksAgree like pair (node.check scope) ((node.substitute σ).check scope')
  | ⟨form, position⟩, names, texts => form.substitute_agree blends names texts position

theorem Form.substitute_agree (blends : σ.Blends like) : (form : Form) →
    NamesAgree like pair scope scope' σ form.freeNames → σ.KeepsTexts form.unnamedOperands →
      ∀ position, ChecksAgree like pair (Node.check scope ⟨form, position⟩)
        (Node.check scope' (Node.substitute σ ⟨form, position⟩))
  | .name _, names, _, position => names _ List.mem_cons_self position
  | .literal l, _, _, position =>
    form_agree (.literal l) (.literal l) (blends.reflexive.positions position) (literal_agree l)
  | .binary op left right, names, texts, position => by
    obtain ⟨leftNames, rightNames⟩ := namesAgree_append.mp names
    obtain ⟨leftTexts, rightTexts⟩ := keepsTexts_append.mp texts
    refine form_agree (.binary op _ _) (.binary op _ _) (blends.reflexive.positions position)
      (binary_agree op ?_ ?_)
    · exact blends.operand (left.substitute_agree blends leftNames leftTexts)
    · exact blends.operand (right.substitute_agree blends rightNames rightTexts)
  | .unary op operand, names, texts, position =>
    form_agree (.unary op _) (.unary op _) (blends.reflexive.positions position)
      (unary_agree op (blends.operand (operand.substitute_agree blends names texts)))
  | .parenthesis inner, names, texts, position =>
    form_agree (.parenthesis _) (.parenthesis _) (blends.reflexive.positions position)
      (inner.substitute_agree blends names texts)
  | .membership negated operand list, names, texts, position =>
    form_agree (.membership negated _ list) (.membership negated _ list) (blends.reflexive.positions position)
      (membership_agree negated list
        (blends.operand (operand.substitute_agree blends names texts)))
  | .conditional condition thenBranch elseBranch, names, texts, position => by
    obtain ⟨conditionNames, names⟩ := namesAgree_append.mp names
    obtain ⟨thenNames, elseNames⟩ := namesAgree_append.mp names
    obtain ⟨conditionTexts, texts⟩ := keepsTexts_append.mp texts
    obtain ⟨thenTexts, elseTexts⟩ := keepsTexts_append.mp texts
    refine form_agree (.conditional _ _ _) (.conditional _ _ _) (blends.reflexive.positions position)
      (conditional_agree ?_ ?_ ?_)
    · exact blends.operand (condition.substitute_agree blends conditionNames conditionTexts)
    · exact blends.operand (thenBranch.substitute_agree blends thenNames thenTexts)
    · exact blends.operand (elseBranch.substitute_agree blends elseNames elseTexts)
  | .call family function args, names, texts, position =>
    form_agree (.call family function _) (.call family function _) (blends.reflexive.positions position)
      (call_agree family function (substituteArguments_agree blends args names texts))
  | .join kind operands keys, names, texts, position =>
    form_agree (.join kind _ keys) (.join kind _ keys) (blends.reflexive.positions position)
      (join_agree kind keys (substituteOperands_agree blends operands names texts))
  | .clause dataset clause, names, texts, position => by
    refine form_agree (.clause _ clause) (.clause _ clause) (blends.reflexive.positions position) ?_
    have agree := blends.operand (dataset.substitute_agree blends names texts)
    refine (query_agree agree).bind fun q r queries => ?_
    exact (clause_agree blends.reflexive clause queries).bind fun _ _ results =>
      Expr.Agree.query results

theorem substituteArguments_agree (blends : σ.Blends like) : (args : List Node) →
    NamesAgree like pair scope scope' σ (argumentNames args) →
      σ.KeepsTexts (unnamedInArguments args) →
        List.Forall₂ (Operand.Agree like pair) (checkArguments scope args)
          (checkArguments scope' (substituteArguments σ args))
  | [], _, _ => .nil
  | node :: rest, names, texts => by
    obtain ⟨firstNames, laterNames⟩ := namesAgree_append.mp names
    obtain ⟨firstTexts, laterTexts⟩ := keepsTexts_append.mp texts
    exact .cons (blends.operand (node.substitute_agree blends firstNames firstTexts))
      (substituteArguments_agree blends rest laterNames laterTexts)

theorem substituteOperands_agree (blends : σ.Blends like) : (operands : List JoinOperand) →
    NamesAgree like pair scope scope' σ (operandNames operands) →
      σ.KeepsTexts (unnamedInOperands operands) →
        List.Forall₂ (JoinOperandsAgree like pair) (checkJoinOperands scope operands)
          (checkJoinOperands scope' (substituteOperands σ operands))
  | [], _, _ => .nil
  | ⟨dataset, none⟩ :: rest, names, texts => by
    obtain ⟨firstNames, laterNames⟩ := namesAgree_append.mp names
    obtain ⟨text, texts⟩ := List.forall_mem_cons.mp texts
    obtain ⟨firstTexts, laterTexts⟩ := keepsTexts_append.mp texts
    have agree := blends.operand (dataset.substitute_agree blends firstNames firstTexts)
    -- the operand goes by its text, which is that of the node itself
    exact .cons ⟨agree, congrArg Node.text (dataset.substitute_eq_self text).symm⟩
      (substituteOperands_agree blends rest laterNames laterTexts)
  | ⟨dataset, some label⟩ :: rest, names, texts => by
    obtain ⟨firstNames, laterNames⟩ := namesAgree_append.mp names
    obtain ⟨firstTexts, laterTexts⟩ := keepsTexts_append.mp texts
    have agree := blends.operand (dataset.substitute_agree blends firstNames firstTexts)
    exact .cons ⟨agree, rfl⟩ (substituteOperands_agree blends rest laterNames laterTexts)

end

/-- A node agrees with itself where its free names do. -/
theorem check_agree_of_names (reflexive : like.Reflexive) (node : Node)
    (agree : ∀ name ∈ node.freeNames, ChecksAgree like pair (Checking.variableNamed scope name)
      (Checking.variableNamed scope' name)) :
    ChecksAgree like pair (node.check scope) (node.check scope') := by
  have names : NamesAgree like pair scope scope' (fun _ => none) node.freeNames :=
    fun name free position =>
      form_agree (.name name) (.name name) (reflexive.positions position) (agree name free)
  have same (other : Node) : other.substitute (fun _ => none) = other :=
    other.substitute_eq_self fun _ _ => rfl
  have blends : Substitution.Blends (fun _ => none) like := by
    refine ⟨reflexive, fun other => ?_⟩
    rw [same]
    exact reflexive.nodes other
  have agree := node.substitute_agree blends names fun _ _ _ _ => rfl
  rwa [same] at agree

/-- Declarations and values of other names are of no account. -/
theorem check_agree_of_freeNames (node : Node)
    (declared : ∀ name ∈ node.freeNames, scope name = scope' name) :
    ChecksAgree .exact (fun env env' => ∀ name ∈ node.freeNames, env name = env' name)
      (node.check scope) (node.check scope') :=
  check_agree_of_names Likeness.exact_reflexive node fun name free =>
    variableNamed_agree (declared name free) fun _ _ same => same name free

end

/-! ### No other names matter -/

/-- The structure of an expression that stands for a dataset. -/
def Expr.layout? : Expr → Option Structure
  | .query q => some q.layout
  | _ => none

theorem Expr.Agree.layout?_eq {like : Likeness} {pair : Env → Env → Prop} {e e' : Expr}
    (h : e.Agree like pair e') : e.layout? = e'.layout? := by
  cases h with
  | query h => exact congrArg some h.1
  | _ => rfl

/-- In two scopes that declare the free names of a node alike, checking fails with one error or gives
expressions of one type and structure, which resolve alike wherever the free names have the same
values. In particular the expressions of a clause see nothing but the rows of its dataset. -/
theorem only_freeNames_matter [PatternLanguage] :
    (∀ (node : Node) (scope scope' : Scope),
      (∀ name ∈ node.freeNames, scope name = scope' name) →
        (∃ error, node.check scope = .error error ∧ node.check scope' = .error error) ∨
          ∃ e e', node.check scope = .ok e ∧ node.check scope' = .ok e' ∧ e.type? = e'.type? ∧
            e.layout? = e'.layout? ∧
            ∀ env env', (∀ name ∈ node.freeNames, env name = env' name) →
              e.resolve env = e'.resolve env') ∧
      ∀ (clause : Clause) (input output : Query), clause.check input = .ok output →
        ∃ step, ∀ env, output.run env = input.run env >>= step := by
  constructor
  · intro node scope scope' declared
    refine (check_agree_of_freeNames node declared).outcomes.imp_right ?_
    rintro ⟨e, e', checked, checked', agree⟩
    exact ⟨e, e', checked, checked', agree.type_eq, agree.layout?_eq,
      fun env env' same => (agree.resolve same).eq⟩
  · intro clause input output checked
    obtain ⟨step, acts⟩ := Clause.check_steps checked
    have own := Except.ok.inj (checked.symm.trans (acts input.run))
    exact ⟨step, fun env => congrFun (congrArg Query.run own) env⟩

namespace Shadowing

def columns : Structure :=
  ⟨[⟨"id", .integer, .identifier⟩, ⟨"x", .integer, .measure⟩], by decide⟩

def readings : Value := .dataset ⟨columns, [⟨columns, [.integer 1, .integer 5]⟩]⟩

def alone : Bindings := [("readings", readings)]

/-- Bindings in which the name of a column is taken. -/
def shadowed : Bindings := [("readings", readings), ("x", .string "outer")]

/-- The expression `readings[calc y := x]`. -/
def calculated : Node :=
  ⟨.clause ⟨.name "readings", none⟩ (.calculate [⟨"y", none, ⟨.name "x", none⟩⟩]), none⟩

end Shadowing

open Shadowing in
theorem column_over_variable :
    (∀ name ∈ calculated.freeNames, alone.scope name = shadowed.scope name) ∧
      ∃ e e', calculated.check alone.scope = .ok e ∧ calculated.check shadowed.scope = .ok e' ∧
        e.resolve alone.env = e'.resolve shadowed.env := by
  have declared : ∀ name ∈ calculated.freeNames, alone.scope name = shadowed.scope name := by
    intro name free
    obtain rfl : name = "readings" := List.mem_singleton.mp free
    rfl
  refine ⟨declared, ?_⟩
  obtain ⟨error, failed, -⟩ | ⟨e, e', checked, checked', -, -, resolved⟩ :=
    only_freeNames_matter.1 calculated alone.scope shadowed.scope declared
  · cases failed
  · refine ⟨e, e', checked, checked', resolved _ _ fun name free => ?_⟩
    obtain rfl : name = "readings" := List.mem_singleton.mp free
    rfl

end DatasetScript
