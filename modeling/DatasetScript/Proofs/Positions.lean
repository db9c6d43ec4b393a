import DatasetScript.Proofs.ClauseAgreement
import DatasetScript.Proofs.FreeNames
/-!
# Positions of errors

Positions serve errors only. An error has the position of a node of the tree that it comes from, and
a tree without positions behaves as the tree itself, but for the positions of errors. Both come from
one comparison of a tree with the tree without positions, along which every position met is one of
the tree. Main statement: `error_positions`.
-/

namespace DatasetScript

/-! ### Trees and their positions -/

mutual

/-- The node and all nodes below it, in the expressions of clauses too. -/
def Node.parts : Node → List Node
  | ⟨form, position⟩ => ⟨form, position⟩ :: form.parts

def Form.parts : Form → List Node
  | .literal _ | .name _ => []
  | .binary _ left right => left.parts ++ right.parts
  | .unary _ operand => operand.parts
  | .parenthesis inner => inner.parts
  | .membership _ operand _ => operand.parts
  | .conditional condition thenBranch elseBranch =>
    condition.parts ++ (thenBranch.parts ++ elseBranch.parts)
  | .call _ _ args => argumentParts args
  | .join _ operands _ => operandParts operands
  | .clause dataset clause => dataset.parts ++ clause.parts

def argumentParts : List Node → List Node
  | [] => []
  | node :: rest => node.parts ++ argumentParts rest

def operandParts : List JoinOperand → List Node
  | [] => []
  | ⟨dataset, _⟩ :: rest => dataset.parts ++ operandParts rest

def Clause.parts : Clause → List Node
  | .calculate items => calculationParts items
  | .filter predicate => predicate.parts
  | .rename _ | .keep _ | .drop _ => []
  | .aggregate items _ => collectionParts items

def calculationParts : List CalcItem → List Node
  | [] => []
  | ⟨_, _, expression⟩ :: rest => expression.parts ++ calculationParts rest

def collectionParts : List AggregateItem → List Node
  | [] => []
  | ⟨_, _, _, none⟩ :: rest => collectionParts rest
  | ⟨_, _, _, some operand⟩ :: rest => operand.parts ++ collectionParts rest

end

mutual

/-- The tree without its positions. -/
def Node.erase : Node → Node
  | ⟨form, _⟩ => ⟨form.erase, none⟩

def Form.erase : Form → Form
  | .literal l => .literal l
  | .name name => .name name
  | .binary op left right => .binary op left.erase right.erase
  | .unary op operand => .unary op operand.erase
  | .parenthesis inner => .parenthesis inner.erase
  | .membership negated operand list => .membership negated operand.erase list
  | .conditional condition thenBranch elseBranch =>
    .conditional condition.erase thenBranch.erase elseBranch.erase
  | .call family function args => .call family function (eraseArguments args)
  | .join kind operands keys => .join kind (eraseOperands operands) keys
  | .clause dataset clause => .clause dataset.erase clause.erase

def eraseArguments : List Node → List Node
  | [] => []
  | node :: rest => node.erase :: eraseArguments rest

def eraseOperands : List JoinOperand → List JoinOperand
  | [] => []
  | ⟨dataset, label⟩ :: rest => ⟨dataset.erase, label⟩ :: eraseOperands rest

def Clause.erase : Clause → Clause
  | .calculate items => .calculate (eraseCalculations items)
  | .filter predicate => .filter predicate.erase
  | .rename items => .rename items
  | .keep names => .keep names
  | .drop names => .drop names
  | .aggregate items groupBy => .aggregate (eraseCollections items) groupBy

def eraseCalculations : List CalcItem → List CalcItem
  | [] => []
  | ⟨name, role, expression⟩ :: rest => ⟨name, role, expression.erase⟩ :: eraseCalculations rest

def eraseCollections : List AggregateItem → List AggregateItem
  | [] => []
  | ⟨name, role, function, none⟩ :: rest => ⟨name, role, function, none⟩ :: eraseCollections rest
  | ⟨name, role, function, some operand⟩ :: rest =>
    ⟨name, role, function, some operand.erase⟩ :: eraseCollections rest

end

mutual

@[simp] theorem Node.text_erase : (node : Node) → node.erase.text = node.text
  | ⟨form, _⟩ => form.text_erase

@[simp] theorem Form.text_erase : (form : Form) → form.erase.text = form.text
  | .literal _ | .name _ => rfl
  | .binary _ left right => by simp [Form.erase, Form.text, left.text_erase, right.text_erase]
  | .unary _ operand => by simp [Form.erase, Form.text, operand.text_erase]
  | .parenthesis inner => by simp [Form.erase, Form.text, inner.text_erase]
  | .membership _ operand _ => by simp [Form.erase, Form.text, operand.text_erase]
  | .conditional condition thenBranch elseBranch => by
    simp [Form.erase, Form.text, condition.text_erase, thenBranch.text_erase, elseBranch.text_erase]
  | .call _ _ args => by simp [Form.erase, Form.text, nodeTexts_erase args]
  | .join _ operands _ => by simp [Form.erase, Form.text, joinOperandTexts_erase operands]
  | .clause dataset clause => by
    simp [Form.erase, Form.text, dataset.text_erase, clause.text_erase]

theorem nodeTexts_erase : (args : List Node) → nodeTexts (eraseArguments args) = nodeTexts args
  | [] => rfl
  | node :: rest => by simp [eraseArguments, nodeTexts, node.text_erase, nodeTexts_erase rest]

theorem joinOperandTexts_erase : (operands : List JoinOperand) →
    joinOperandTexts (eraseOperands operands) = joinOperandTexts operands
  | [] => rfl
  | ⟨dataset, none⟩ :: rest => by
    simp [eraseOperands, joinOperandTexts, dataset.text_erase, joinOperandTexts_erase rest]
  | ⟨dataset, some _⟩ :: rest => by
    simp [eraseOperands, joinOperandTexts, dataset.text_erase, joinOperandTexts_erase rest]

theorem Clause.text_erase : (clause : Clause) → clause.erase.text = clause.text
  | .calculate items => by simp [Clause.erase, Clause.text, calcItemTexts_erase items]
  | .filter predicate => by simp [Clause.erase, Clause.text, predicate.text_erase]
  | .rename _ | .keep _ | .drop _ => rfl
  | .aggregate items _ => by simp [Clause.erase, Clause.text, aggregateItemTexts_erase items]

theorem calcItemTexts_erase : (items : List CalcItem) →
    calcItemTexts (eraseCalculations items) = calcItemTexts items
  | [] => rfl
  | ⟨_, _, expression⟩ :: rest => by
    simp [eraseCalculations, calcItemTexts, expression.text_erase, calcItemTexts_erase rest]

theorem aggregateItemTexts_erase : (items : List AggregateItem) →
    aggregateItemTexts (eraseCollections items) = aggregateItemTexts items
  | [] => rfl
  | ⟨_, _, _, none⟩ :: rest => by
    simp [eraseCollections, aggregateItemTexts, aggregateItemTexts_erase rest]
  | ⟨_, _, _, some operand⟩ :: rest => by
    simp [eraseCollections, aggregateItemTexts, operand.text_erase, aggregateItemTexts_erase rest]

end

/-! ### A tree beside itself without positions -/

def Error.erase (e : Error) : Error := { e with position := none }

/-- The second error is the first one without its position, which is one of the given places. -/
def Likeness.erased (places : Position → Prop) : Likeness where
  errors e e' := (∀ p, e.position = some p → places p) ∧ e' = e.erase
  positions p p' := (∀ x, p = some x → places x) ∧ p' = none
  texts := True
  located := by
    rintro ⟨cause, own⟩ _ p _ ⟨known, rfl⟩ ⟨given, rfl⟩
    refine ⟨fun x here => ?_, rfl⟩
    cases own with
    | none => exact given x here
    | some y => exact known x here
  unplaced _ same := ⟨nofun, congrArg (Error.mk · none) (same trivial).symm⟩

/-- All positions of the nodes are among the given places. -/
def Within (places : Position → Prop) (nodes : List Node) : Prop :=
  ∀ node ∈ nodes, ∀ p, node.position = some p → places p

section

variable {places : Position → Prop}

theorem within_append {nodes others : List Node} :
    Within places (nodes ++ others) ↔ Within places nodes ∧ Within places others :=
  List.forall_mem_append

theorem Node.within_root {form : Form} {p : Option Position}
    (within : Within places (Node.parts ⟨form, p⟩)) :
    (Likeness.erased places).positions p none ∧ Within places form.parts := by
  obtain ⟨root, below⟩ := List.forall_mem_cons.mp within
  exact ⟨⟨root, rfl⟩, below⟩

variable [PatternLanguage]

theorem erased_operand_agree {node : Node} {scope : Scope} (within : Within places node.parts)
    (h : ChecksAgree (.erased places) Eq (node.check scope) (node.erase.check scope)) :
    Operand.Agree (.erased places) Eq ⟨node, node.check scope⟩
      ⟨node.erase, node.erase.check scope⟩ := by
  obtain ⟨form, p⟩ := node
  have nodes : (Likeness.erased places).Nodes ⟨form, p⟩ (Node.erase ⟨form, p⟩) :=
    ⟨(Node.within_root within).1, fun _ => (Node.text_erase _).symm⟩
  exact operand_agree nodes h

mutual

theorem Node.erase_agree (scope : Scope) : (node : Node) → Within places node.parts →
    ChecksAgree (.erased places) Eq (node.check scope) (node.erase.check scope)
  | ⟨form, _⟩, within =>
    form_agree form form.erase (Node.within_root within).1
      (form.erase_agree scope (Node.within_root within).2)

theorem Form.erase_agree (scope : Scope) : (form : Form) → Within places form.parts →
    ChecksAgree (.erased places) Eq (form.check scope) (form.erase.check scope)
  | .literal l, _ => literal_agree l
  | .name name, _ => variableNamed_agree rfl fun _ _ same => same ▸ rfl
  | .binary op left right, within => by
    obtain ⟨first, second⟩ := within_append.mp within
    exact binary_agree op (erased_operand_agree first (left.erase_agree scope first))
      (erased_operand_agree second (right.erase_agree scope second))
  | .unary op operand, within =>
    unary_agree op (erased_operand_agree within (operand.erase_agree scope within))
  | .parenthesis inner, within => inner.erase_agree scope within
  | .membership negated operand list, within =>
    membership_agree negated list (erased_operand_agree within (operand.erase_agree scope within))
  | .conditional condition thenBranch elseBranch, within => by
    obtain ⟨first, others⟩ := within_append.mp within
    obtain ⟨second, third⟩ := within_append.mp others
    exact conditional_agree (erased_operand_agree first (condition.erase_agree scope first))
      (erased_operand_agree second (thenBranch.erase_agree scope second))
      (erased_operand_agree third (elseBranch.erase_agree scope third))
  | .call family function args, within =>
    call_agree family function (eraseArguments_agree scope args within)
  | .join kind operands keys, within =>
    join_agree kind keys (eraseOperands_agree scope operands within)
  | .clause dataset clause, within => by
    obtain ⟨first, second⟩ := within_append.mp within
    have input := query_agree (erased_operand_agree first (dataset.erase_agree scope first))
    refine input.bind fun q r queries => ?_
    exact (clause.erase_agree queries second).bind fun _ _ results => Expr.Agree.query results

theorem eraseArguments_agree (scope : Scope) : (args : List Node) →
    Within places (argumentParts args) →
      List.Forall₂ (Operand.Agree (.erased places) Eq) (checkArguments scope args)
        (checkArguments scope (eraseArguments args))
  | [], _ => .nil
  | node :: rest, within => by
    obtain ⟨first, later⟩ := within_append.mp within
    exact .cons (erased_operand_agree first (node.erase_agree scope first))
      (eraseArguments_agree scope rest later)

theorem eraseOperands_agree (scope : Scope) : (operands : List JoinOperand) →
    Within places (operandParts operands) →
      List.Forall₂ (JoinOperandsAgree (.erased places) Eq) (checkJoinOperands scope operands)
        (checkJoinOperands scope (eraseOperands operands))
  | [], _ => .nil
  | ⟨dataset, label⟩ :: rest, within => by
    obtain ⟨first, later⟩ := within_append.mp within
    have name : Checking.joinName label dataset = Checking.joinName label dataset.erase := by
      unfold Checking.joinName
      rw [dataset.text_erase]
    exact .cons ⟨erased_operand_agree first (dataset.erase_agree scope first), name⟩
      (eraseOperands_agree scope rest later)

theorem Clause.erase_agree {q r : Query} (h : q.Agree (.erased places) Eq r) :
    (clause : Clause) → Within places clause.parts →
      Agree (.erased places) (Query.Agree (.erased places) Eq) (clause.check q)
        (clause.erase.check r)
  | .calculate items, within => by
    unfold Clause.erase Clause.check
    rw [← h.1]
    exact calculate_agree h (eraseCalculations_agree q.layout.scope items within)
  | .filter predicate, within => by
    unfold Clause.erase Clause.check
    rw [← h.1]
    exact filter_agree h
      (erased_operand_agree within (predicate.erase_agree q.layout.scope within))
  | .rename items, _ => rename_agree h items
  | .keep names, _ => project_agree h names
  | .drop names, _ => drop_agree h names
  | .aggregate items groupBy, within => by
    unfold Clause.erase Clause.check
    rw [← h.1]
    exact aggregate_agree h (eraseCollections_agree q.layout.scope items within) groupBy

theorem eraseCalculations_agree (scope : Scope) : (items : List CalcItem) →
    Within places (calculationParts items) →
      List.Forall₂ (Checking.Calculation.Agree (.erased places)) (checkCalculations scope items)
        (checkCalculations scope (eraseCalculations items))
  | [], _ => .nil
  | ⟨_, _, expression⟩ :: rest, within => by
    obtain ⟨first, later⟩ := within_append.mp within
    exact .cons ⟨rfl, rfl, erased_operand_agree first (expression.erase_agree scope first)⟩
      (eraseCalculations_agree scope rest later)

theorem eraseCollections_agree (scope : Scope) : (items : List AggregateItem) →
    Within places (collectionParts items) →
      List.Forall₂ (Checking.Collection.Agree (.erased places)) (checkCollections scope items)
        (checkCollections scope (eraseCollections items))
  | [], _ => .nil
  | ⟨_, _, _, none⟩ :: rest, within =>
    .cons ⟨rfl, rfl, rfl, .none⟩ (eraseCollections_agree scope rest within)
  | ⟨_, _, _, some operand⟩ :: rest, within => by
    obtain ⟨first, later⟩ := within_append.mp within
    have agree := erased_operand_agree first (operand.erase_agree scope first)
    exact .cons ⟨rfl, rfl, rfl, .some agree⟩ (eraseCollections_agree scope rest later)

end

end

/-- A failure beside the tree without positions has one of the places. -/
theorem place_of_failure {α β : Type} {places : Position → Prop} {related : α → β → Prop}
    {x : Except Error α} {y : Except Error β} (h : Agree (.erased places) related x y) {error : Error}
    (failed : x = .error error) : ∀ p, error.position = some p → places p := by
  subst failed
  cases y with
  | error e => exact h.1
  | ok b => exact h.elim

/-! ### Errors of a node with a position -/

theorem isSome_position_of_locate {α : Type} {p : Position} {x : Except Error α} {error : Error}
    (h : locate (some p) x = .error error) : error.position.isSome := by
  cases x with
  | ok a => cases h
  | error e =>
    rw [← Except.error.inj h]
    obtain ⟨cause, own⟩ := e
    cases own <;> rfl

theorem resolve_locate (e : Expr) (p : Option Position) (env : Env) :
    (e.locate p).resolve env = locate p (e.resolve env) := by
  cases e with
  | null => rfl
  | scalar t f =>
    change (locate p (f env) >>= _) = locate p (f env >>= _)
    cases f env <;> rfl
  | query q =>
    change (locate p (q.run env) >>= _) = locate p (q.run env >>= _)
    cases q.run env <;> rfl

theorem check_some_position [PatternLanguage] {scope : Scope} {form : Form} {p : Position} :
    (∀ error, Node.check scope ⟨form, some p⟩ = .error error → error.position.isSome) ∧
      ∀ e env error, Node.check scope ⟨form, some p⟩ = .ok e → e.resolve env = .error error →
        error.position.isSome := by
  rw [check_eq_placed]
  unfold placed
  cases form.check scope with
  | error cause =>
    refine ⟨fun error failed => ?_, fun e env error checked => by cases checked⟩
    exact isSome_position_of_locate (x := (.error cause : Except Error Expr)) failed
  | ok inner =>
    refine ⟨fun error failed => (by cases failed), fun e env error checked failed => ?_⟩
    obtain rfl : inner.locate (some p) = e := Except.ok.inj checked
    rw [resolve_locate] at failed
    exact isSome_position_of_locate failed

/-! ### Main statement -/

/-- An error has the position of some node of the tree if it has any, and does if the root does. -/
def Error.PlacedBy (node : Node) (error : Error) : Prop :=
  (∀ p, error.position = some p → ∃ part ∈ node.parts, part.position = some p) ∧
    (node.position.isSome → error.position.isSome)

/-- Errors of checking a node, and of resolving what it is checked to, have positions of the tree.
Without its positions the tree fails with an error of the same cause or is checked to an expression
of the same type and structure, which gives the same value or fails with an error of the same
cause in every environment. -/
theorem error_positions [PatternLanguage] (node : Node) (scope : Scope) :
    (∀ error, node.check scope = .error error → error.PlacedBy node) ∧
      (∀ e env error, node.check scope = .ok e → e.resolve env = .error error →
        error.PlacedBy node) ∧
      ((∃ error, node.check scope = .error error ∧
          node.erase.check scope = .error error.erase) ∨
        ∃ e e', node.check scope = .ok e ∧ node.erase.check scope = .ok e' ∧
          e.type? = e'.type? ∧ e.layout? = e'.layout? ∧
          ∀ env, (∃ v, e.resolve env = .ok v ∧ e'.resolve env = .ok v) ∨
            ∃ error, e.resolve env = .error error ∧ e'.resolve env = .error error.erase) := by
  have within : Within (fun p => ∃ part ∈ node.parts, part.position = some p) node.parts :=
    fun part member p here => ⟨part, member, here⟩
  have agree := node.erase_agree scope within
  have rooted : node.position.isSome →
      (∀ error, node.check scope = .error error → error.position.isSome) ∧
        ∀ e env error, node.check scope = .ok e → e.resolve env = .error error →
          error.position.isSome := by
    obtain ⟨form, position⟩ := node
    rintro here
    obtain ⟨p, rfl⟩ := Option.isSome_iff_exists.mp here
    exact check_some_position
  have resolved {e : Expr} (env : Env) (checked : node.check scope = .ok e) :
      ∃ e', Agree (.erased fun p => ∃ part ∈ node.parts, part.position = some p) Eq
        (e.resolve env) (Expr.resolve e' env) := by
    obtain ⟨_, _, own, -, -⟩ | ⟨_, e', own, -, expressions⟩ := agree.alike
    · cases checked.symm.trans own
    · cases checked.symm.trans own
      exact ⟨e', expressions.resolve rfl⟩
  refine ⟨fun error failed => ?_, fun e env error checked failed => ?_, ?_⟩
  · exact ⟨place_of_failure agree failed, fun root => (rooted root).1 error failed⟩
  · obtain ⟨e', both⟩ := resolved env checked
    exact ⟨place_of_failure both failed, fun root => (rooted root).2 e env error checked failed⟩
  · refine agree.alike.imp ?_ ?_
    · rintro ⟨error, _, failed, failed', -, rfl⟩
      exact ⟨error, failed, failed'⟩
    · rintro ⟨e, e', checked, checked', expressions⟩
      refine ⟨e, e', checked, checked', expressions.type_eq, expressions.layout?_eq, fun env => ?_⟩
      refine (expressions.resolve (rfl : env = env)).alike.symm.imp ?_ ?_
      · rintro ⟨v, _, resolved, resolved', rfl⟩
        exact ⟨v, resolved, resolved'⟩
      · rintro ⟨error, _, failed, failed', -, rfl⟩
        exact ⟨error, failed, failed'⟩

namespace Misplaced

def text : Node := ⟨.literal (.string "a"), some ⟨1, 5⟩⟩

/-- The expression `1 + "a"`. -/
def sum : Node :=
  ⟨.binary (.additive .plus) ⟨.literal (.integer 1), some ⟨1, 1⟩⟩ text, some ⟨1, 3⟩⟩

def refusal : Error :=
  ⟨.typeMismatch .numeric (.type (some .string)) "\"a\"", some ⟨1, 5⟩⟩

end Misplaced

open Misplaced in
/-- The error has the position of the text, not that of the sum. -/
theorem refusal_placed : sum.check (fun _ => none) = .error refusal ∧ refusal.PlacedBy sum :=
  ⟨rfl, (error_positions sum fun _ => none).1 refusal rfl⟩

end DatasetScript
