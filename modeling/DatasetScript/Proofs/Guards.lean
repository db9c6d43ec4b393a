import DatasetScript.Proofs.GuardedJoins
import DatasetScript.Proofs.Regular
/-!
# Evaluation under guards

Checking and resolving once more, with a guard wherever rows are taken on trust: every dataset that a
node resolves to must be assembled of rows with its columns, every row that a clause reads by name
must have a cell for each of its columns, and joins access flags and cells as guarded joins do. What
a failing guard reports is arbitrary, so that no failure can pass for another error. Main statement:
`no_guard_fails`, by which guarded evaluation is evaluation.
-/

namespace DatasetScript

/-! ### Guarded evaluation -/

section

variable (fault : Error)

/-- Hands on a dataset whose rows all have its columns. -/
def Dataset.assembled (d : Dataset) : Except Error Dataset :=
  if d.rows.all fun r => r.layout.isCompatibleWith d.layout then .ok d else .error fault

/-- Hands on a dataset whose rows all have a cell under each of their names. -/
def Dataset.readable (d : Dataset) : Except Error Dataset :=
  if d.rows.all fun r => r.layout.names.all fun name => (r.get? name).isSome then .ok d
  else .error fault

/-- The datasets of a query, put to a guard. -/
def Query.guarded (guard : Dataset → Except Error Dataset) (q : Query) : Query :=
  ⟨q.layout, fun env => q.run env >>= guard⟩

def Expr.assembled : Expr → Expr
  | .query q => .query (q.guarded (Dataset.assembled fault))
  | e => e

def Checking.guardedJoin (kind : JoinKind) (operands : List (Option String × Operand))
    (keys : List String) : Except Error Expr := do
  if operands.isEmpty then .error (.argumentCount kind.name (.atLeast 1) 0)
  else
    let datasets ← joinOperands [] operands
    let components ← keyComponents kind (datasets.map (·.2.layout)) keys
    return .query (← Query.guardedJoin fault kind datasets components)

variable [PatternLanguage]

mutual

def Node.checkGuarded (scope : Scope) : Node → Except Error Expr
  | ⟨form, position⟩ => do
    let e ← locate position (form.checkGuarded scope)
    return (e.assembled fault).locate position

def Form.checkGuarded (scope : Scope) : Form → Except Error Expr
  | .literal l => .ok (Checking.literal l)
  | .name name => Checking.variableNamed scope name
  | .binary op left right =>
    Checking.binary op ⟨left, left.checkGuarded scope⟩ ⟨right, right.checkGuarded scope⟩
  | .unary op operand => Checking.unary op ⟨operand, operand.checkGuarded scope⟩
  | .parenthesis inner => inner.checkGuarded scope
  | .membership negated operand list =>
    Checking.membership negated ⟨operand, operand.checkGuarded scope⟩ list
  | .conditional condition thenBranch elseBranch =>
    Checking.conditional ⟨condition, condition.checkGuarded scope⟩
      ⟨thenBranch, thenBranch.checkGuarded scope⟩ ⟨elseBranch, elseBranch.checkGuarded scope⟩
  | .call family function args => Checking.call family function (guardedArguments scope args)
  | .join kind operands keys =>
    Checking.guardedJoin fault kind (guardedJoinOperands scope operands) keys
  | .clause dataset clause => do
    let input ← Operand.query ⟨dataset, dataset.checkGuarded scope⟩
    return .query (← clause.checkGuarded (input.guarded (Dataset.readable fault)))

def guardedArguments (scope : Scope) : List Node → List Operand
  | [] => []
  | node :: rest => ⟨node, node.checkGuarded scope⟩ :: guardedArguments scope rest

def guardedJoinOperands (scope : Scope) : List JoinOperand → List (Option String × Operand)
  | [] => []
  | ⟨dataset, label⟩ :: rest =>
    (label, ⟨dataset, dataset.checkGuarded scope⟩) :: guardedJoinOperands scope rest

def Clause.checkGuarded (input : Query) : Clause → Except Error Query
  | .calculate items =>
    Checking.calculate input (guardedCalculations input.layout.scope items)
  | .filter predicate =>
    Checking.filter input ⟨predicate, predicate.checkGuarded input.layout.scope⟩
  | .rename items => Checking.rename input items
  | .keep names => input.project names
  | .drop names => Checking.drop input names
  | .aggregate items groupBy =>
    Checking.aggregate input (guardedCollections input.layout.scope items) groupBy

def guardedCalculations (scope : Scope) : List CalcItem → List Checking.Calculation
  | [] => []
  | ⟨name, role, expression⟩ :: rest =>
    ⟨name, role, ⟨expression, expression.checkGuarded scope⟩⟩ :: guardedCalculations scope rest

def guardedCollections (scope : Scope) : List AggregateItem → List Checking.Collection
  | [] => []
  | ⟨name, role, function, none⟩ :: rest =>
    ⟨name, role, function, none⟩ :: guardedCollections scope rest
  | ⟨name, role, function, some operand⟩ :: rest =>
    ⟨name, role, function, some ⟨operand, operand.checkGuarded scope⟩⟩ ::
      guardedCollections scope rest

end

def Node.evaluateGuarded (node : Node) (b : Bindings) : Except Error Value := do
  (← node.checkGuarded fault b.scope).resolve b.env

def Program.runGuardedFrom (last : Value) : Program → Bindings → Bindings × Except Error Value
  | [], b => (b, .ok last)
  | statement :: rest, b =>
    match statement.expression.evaluateGuarded fault b with
    | .ok v => runGuardedFrom v rest (Assoc.insert b statement.name v)
    | .error e => (b, .error e)

def Program.runGuarded (p : Program) (b : Bindings) : Bindings × Except Error Value :=
  p.runGuardedFrom fault .null b

end

/-! ### Guards that hold -/

section

variable {fault : Error} {scope : Scope}

theorem assembled_of_regular (fault : Error) {d : Dataset} (h : d.Regular) :
    d.assembled fault = .ok d := by
  have columns : d.rows.all (fun r => r.layout.isCompatibleWith d.layout) = true :=
    List.all_eq_true.mpr fun r member => (h r member).1
  simp [Dataset.assembled, columns]

theorem readable_of_regular (fault : Error) {d : Dataset} (h : d.Regular) :
    d.readable fault = .ok d := by
  have cells : d.rows.all (fun r => r.layout.names.all fun name => (r.get? name).isSome) = true :=
    List.all_eq_true.mpr fun r member =>
      List.all_eq_true.mpr fun name known => get?_isSome (h r member).2 known
  simp [Dataset.readable, cells]

theorem guardedJoin_eq_join (fault : Error) (kind : JoinKind) (operands : List (Option String × Operand))
    (keys : List String) :
    Checking.guardedJoin fault kind operands keys = Checking.join kind operands keys := by
  unfold Checking.guardedJoin Checking.join
  simp only [guardedJoin_eq]

/-- One environment, in which names declared to be datasets are bound to regular ones. -/
def Sane (scope : Scope) (env env' : Env) : Prop := env = env' ∧ env.RegularIn scope

theorem guarded_agree {guard : Dataset → Except Error Dataset} {q r : Query}
    (h : q.Agree .exact (Sane scope) r)
    (passes : ∀ env d, env.RegularIn scope → r.run env = .ok d → guard d = .ok d) :
    (q.guarded guard).Agree .exact (Sane scope) r := by
  refine ⟨h.1, ?_⟩
  rintro env _ ⟨rfl, regular⟩
  change Agree .exact Eq (q.run env >>= guard) (r.run env)
  rw [(h.2 env env ⟨rfl, regular⟩).eq]
  cases run : r.run env with
  | error e => exact rfl
  | ok d =>
    rw [ok_bind, passes env d regular run]
    exact rfl

/-- Where every environment is sane, checks that agree are one check. -/
theorem eq_of_agree {x y : Except Error Expr} (sane : ∀ env : Env, env.RegularIn scope)
    (h : ChecksAgree .exact (Sane scope) x y) : x = y := by
  obtain ⟨e, failed, failed'⟩ | ⟨e, e', made, made', agree⟩ := h.outcomes
  · rw [failed, failed']
  · rw [made, made']
    refine congrArg _ ?_
    cases agree with
    | null => rfl
    | @scalar t f g h =>
      have same : f = g := funext fun env => (h env env ⟨rfl, sane env⟩).eq
      rw [same]
    | @query q r h =>
      obtain ⟨layout, run⟩ := q
      obtain ⟨layout', run'⟩ := r
      have same : run = run' := funext fun env => (h.2 env env ⟨rfl, sane env⟩).eq
      have own : layout = layout' := h.1
      rw [same, own]

/-- No column is declared to be a dataset that could be resolved. -/
theorem columns_sane (s : Structure) (env : Env) : env.RegularIn s.scope := by
  intro name layout d declared
  unfold Structure.scope at declared
  cases known : s.columnType? name <;> simp [known] at declared

/-! ### Guarded nodes -/

variable [PatternLanguage]

theorem form_guarded_agree {form : Form} (position : Option Position)
    (h : ChecksAgree .exact (Sane scope) (form.checkGuarded fault scope) (form.check scope)) :
    ChecksAgree .exact (Sane scope) (Node.checkGuarded fault scope ⟨form, position⟩)
      (Node.check scope ⟨form, position⟩) := by
  unfold Node.checkGuarded Node.check
  obtain ⟨e, failed, failed'⟩ | ⟨e, e', made, made', agree⟩ := h.outcomes
  · rw [failed, failed']
    exact rfl
  · rw [made, made']
    change (e.assembled fault |>.locate position).Agree .exact (Sane scope) (e'.locate position)
    refine Expr.Agree.locate rfl ?_
    cases agree with
    | null => exact .null
    | scalar h => exact .scalar h
    | @query q r h =>
      refine Expr.Agree.query (guarded_agree h fun env d regular run => ?_)
      have checked := check_of_form form none made'
      exact assembled_of_regular fault
        (run_regular regular _ checked (locate_eq_ok_iff.mpr run)).1

/-- Guards leave text literals alone. -/
theorem checkGuarded_faithful (fault : Error) (scope : Scope) (node : Node) :
    Operand.Faithful ⟨node, node.checkGuarded fault scope⟩ := by
  intro text literal
  obtain ⟨p, rfl⟩ := eq_of_textLiteral? literal
  rfl

theorem operand_guarded_agree {node : Node}
    (h : ChecksAgree .exact (Sane scope) (node.checkGuarded fault scope) (node.check scope)) :
    Operand.Agree .exact (Sane scope) ⟨node, node.checkGuarded fault scope⟩
      ⟨node, node.check scope⟩ :=
  ⟨Likeness.exact_reflexive.nodes node, h, checkGuarded_faithful fault scope node,
    check_faithful scope node⟩

mutual

theorem Node.guarded_agree (fault : Error) (scope : Scope) : (node : Node) →
    ChecksAgree .exact (Sane scope) (node.checkGuarded fault scope) (node.check scope)
  | ⟨form, position⟩ => form_guarded_agree position (form.guarded_agree fault scope)

theorem Form.guarded_agree (fault : Error) (scope : Scope) : (form : Form) →
    ChecksAgree .exact (Sane scope) (form.checkGuarded fault scope) (form.check scope)
  | .literal l => literal_agree l
  | .name _ => variableNamed_agree rfl fun _ _ sane => by rw [sane.1]
  | .binary op left right =>
    binary_agree op (operand_guarded_agree (left.guarded_agree fault scope))
      (operand_guarded_agree (right.guarded_agree fault scope))
  | .unary op operand => unary_agree op (operand_guarded_agree (operand.guarded_agree fault scope))
  | .parenthesis inner => inner.guarded_agree fault scope
  | .membership negated operand list =>
    membership_agree negated list (operand_guarded_agree (operand.guarded_agree fault scope))
  | .conditional condition thenBranch elseBranch =>
    conditional_agree (operand_guarded_agree (condition.guarded_agree fault scope))
      (operand_guarded_agree (thenBranch.guarded_agree fault scope))
      (operand_guarded_agree (elseBranch.guarded_agree fault scope))
  | .call family function args => call_agree family function (guardedArguments_agree fault scope args)
  | .join kind operands keys => by
    unfold Form.checkGuarded Form.check
    rw [guardedJoin_eq_join]
    exact join_agree kind keys (guardedJoinOperands_agree fault scope operands)
  | .clause dataset clause => by
    have agree : Operand.Agree .exact (Sane scope) ⟨dataset, dataset.checkGuarded fault scope⟩
        ⟨dataset, dataset.check scope⟩ := operand_guarded_agree (dataset.guarded_agree fault scope)
    unfold Form.checkGuarded Form.check
    obtain ⟨e, failed, failed'⟩ | ⟨q, r, made, made', queries⟩ := (query_agree agree).outcomes
    · rw [failed, failed']
      exact rfl
    · have readable := guarded_agree queries fun env d regular run =>
        readable_of_regular fault (run_regular regular dataset (query_operand made') run).1
      rw [made, made', ok_bind, ok_bind, clause.checkGuarded_eq fault]
      exact (clause_agree Likeness.exact_reflexive clause readable).bind fun _ _ results =>
        Expr.Agree.query results

theorem guardedArguments_agree (fault : Error) (scope : Scope) : (args : List Node) →
    List.Forall₂ (Operand.Agree .exact (Sane scope)) (guardedArguments fault scope args)
      (checkArguments scope args)
  | [] => .nil
  | node :: rest =>
    .cons (operand_guarded_agree (node.guarded_agree fault scope)) (guardedArguments_agree fault scope rest)

theorem guardedJoinOperands_agree (fault : Error) (scope : Scope) : (operands : List JoinOperand) →
    List.Forall₂ (JoinOperandsAgree .exact (Sane scope)) (guardedJoinOperands fault scope operands)
      (checkJoinOperands scope operands)
  | [] => .nil
  | ⟨dataset, _⟩ :: rest =>
    .cons ⟨operand_guarded_agree (dataset.guarded_agree fault scope), rfl⟩
      (guardedJoinOperands_agree fault scope rest)

/-- In the expressions of a clause there are no datasets to guard. -/
theorem Clause.checkGuarded_eq (fault : Error) (input : Query) : (clause : Clause) →
    clause.checkGuarded fault input = clause.check input
  | .calculate items =>
    congrArg (Checking.calculate input) (guardedCalculations_eq fault (columns_sane _) items)
  | .filter predicate => by
    unfold Clause.checkGuarded Clause.check
    rw [eq_of_agree (columns_sane _) (predicate.guarded_agree fault input.layout.scope)]
  | .rename _ => rfl
  | .keep _ => rfl
  | .drop _ => rfl
  | .aggregate items groupBy =>
    congrArg (Checking.aggregate input · groupBy) (guardedCollections_eq fault (columns_sane _) items)

theorem guardedCalculations_eq (fault : Error) {scope : Scope} (sane : ∀ env : Env, env.RegularIn scope) :
    (items : List CalcItem) → guardedCalculations fault scope items = checkCalculations scope items
  | [] => rfl
  | ⟨name, role, expression⟩ :: rest => by
    unfold guardedCalculations checkCalculations
    rw [eq_of_agree sane (expression.guarded_agree fault scope), guardedCalculations_eq fault sane rest]

theorem guardedCollections_eq (fault : Error) {scope : Scope} (sane : ∀ env : Env, env.RegularIn scope) :
    (items : List AggregateItem) →
      guardedCollections fault scope items = checkCollections scope items
  | [] => rfl
  | ⟨name, role, function, none⟩ :: rest => by
    unfold guardedCollections checkCollections
    rw [guardedCollections_eq fault sane rest]
  | ⟨name, role, function, some operand⟩ :: rest => by
    unfold guardedCollections checkCollections
    rw [eq_of_agree sane (operand.guarded_agree fault scope), guardedCollections_eq fault sane rest]

end

/-! ### Guarded programs -/

theorem resolve_guarded {e e' : Expr} {env : Env} (agree : e.Agree .exact (Sane scope) e')
    (reachable : env.Reachable) : e.resolve env = e'.resolve env :=
  (agree.resolve ⟨rfl, reachable.regularIn scope⟩).eq

theorem evaluateGuarded_eq {b : Bindings} (node : Node) (reachable : b.env.Reachable) :
    node.evaluateGuarded fault b = node.evaluate b := by
  unfold Node.evaluateGuarded Node.evaluate
  obtain ⟨e, failed, failed'⟩ | ⟨e, e', made, made', agree⟩ :=
    (node.guarded_agree fault b.scope).outcomes
  · rw [failed, failed']
  · rw [made, made']
    exact resolve_guarded agree reachable

theorem insert_reachable {node : Node} {b : Bindings} {v : Value} (name : String)
    (reachable : b.env.Reachable) (evaluated : node.evaluate b = .ok v) :
    Env.Reachable (Bindings.env (Assoc.insert b name v)) := by
  obtain ⟨e, checked, resolved⟩ := bind_ok evaluated
  intro other d found
  by_cases here : other = name
  · subst here
    rw [assigned_self] at found
    cases found
    exact .resolved reachable checked resolved
  · rw [assigned_other here] at found
    exact reachable other d found

theorem runGuardedFrom_eq {p : Program} {b : Bindings} {last : Value}
    (reachable : b.env.Reachable) :
    p.runGuardedFrom fault last b = p.runFrom last b ∧ (p.runFrom last b).1.env.Reachable := by
  induction p generalizing b last with
  | nil => exact ⟨rfl, reachable⟩
  | cons statement rest ih =>
    unfold Program.runGuardedFrom Program.runFrom
    rw [evaluateGuarded_eq statement.expression reachable]
    cases evaluated : statement.expression.evaluate b with
    | ok v => exact ih (insert_reachable statement.name reachable evaluated)
    | error e => exact ⟨rfl, reachable⟩

end

theorem ofScalarJson_not_dataset {j : Json} {d : Dataset} :
    Value.ofScalarJson j ≠ .ok (.dataset d) := by
  intro h
  cases j with
  | integer n =>
    have h := Except.ok.inj h
    unfold Value.ofInteger at h
    split at h <;> cases h
  | _ => cases h

theorem bindingOfJson_reachable [PatternLanguage] {name : String} {j : Json}
    {entry : String × Value} (h : Bindings.bindingOfJson name j = .ok entry) :
    ∀ d, entry.2 = .dataset d → d.Reachable := by
  unfold Bindings.bindingOfJson at h
  split at h
  · rename_i v read
    cases h
    rintro d rfl
    unfold Value.ofJson at read
    split at read
    · obtain ⟨d', built, made⟩ := bind_ok read
      cases pure_ok made
      exact .ofJson built
    · exact (ofScalarJson_not_dataset read).elim
  · cases h

theorem ofJson_reachable [PatternLanguage] {j : Json} {b : Bindings}
    (h : Bindings.ofJson j = .ok b) : b.env.Reachable := by
  intro name d found
  obtain ⟨entry, here, value⟩ := Option.map_eq_some_iff.mp found
  unfold Bindings.ofJson at h
  split at h
  · obtain ⟨_, -, made⟩ := mapM_member h (List.mem_of_find?_eq_some here)
    exact bindingOfJson_reachable made d value
  · cases h

/-- No guard fails, whatever a failing guard reports: checking a node has the same outcome with guards
as without, and so has resolving it in any environment of reachable datasets, whether or not these
are what the scope declares. Programs keep datasets reachable, and those read from JSON are. -/
theorem no_guard_fails [PatternLanguage] (fault : Error) :
    (∀ (node : Node) (scope : Scope),
      (∃ error, node.checkGuarded fault scope = .error error ∧ node.check scope = .error error) ∨
        ∃ e e', node.checkGuarded fault scope = .ok e ∧ node.check scope = .ok e' ∧
          ∀ env : Env, env.Reachable → e.resolve env = e'.resolve env) ∧
      (∀ (p : Program) (b : Bindings), b.env.Reachable →
        p.runGuarded fault b = p.run b ∧ (p.run b).1.env.Reachable) ∧
      ∀ (j : Json) (b : Bindings), Bindings.ofJson j = .ok b → b.env.Reachable := by
  refine ⟨fun node scope => ?_, fun p b reachable => runGuardedFrom_eq reachable,
    fun j b read => ofJson_reachable read⟩
  refine (node.guarded_agree fault scope).outcomes.imp_right ?_
  rintro ⟨e, e', made, made', agree⟩
  exact ⟨e, e', made, made', fun env reachable => resolve_guarded agree reachable⟩

namespace Branches

def failure : Error := .resolutionFailure (.described "guard")

/-- The statements `kept := (if false then a else b)[filter true]` and `small := kept[keep x]`. -/
def keeping : Program :=
  [⟨"kept", ⟨.clause chooseSecond (.filter ⟨.literal (.boolean true), none⟩), none⟩⟩,
    ⟨"small", ⟨.clause ⟨.name "kept", none⟩ (.keep ["x"]), none⟩⟩]

theorem swapped_reachable : swappedBindings.env.Reachable := by
  intro name d found
  simp only [Bindings.env, swappedBindings, bindings, Assoc.find?_cons, Assoc.find?_nil] at found
  split at found
  · cases found
    exact .empty pair
  · split at found
    · cases found
      have built : Dataset.ofCells swapped [[.string "one", .integer 1]] =
          .ok ⟨swapped, [swappedRow]⟩ := rfl
      exact .ofCells built
    · cases found

end Branches

open Branches in
theorem swapped_branch_guarded :
    swappedBindings.env.Reachable ∧
      keeping.runGuarded failure swappedBindings = keeping.run swappedBindings :=
  ⟨swapped_reachable, ((no_guard_fails failure).2.1 keeping swappedBindings swapped_reachable).1⟩

open Branches in
/-- A row without cells, which no dataset can be built with, does not pass. -/
example : Node.evaluateGuarded failure ⟨.clause first (.keep ["x"]), none⟩
    [("a", .dataset ⟨pair, [⟨pair, []⟩]⟩)] = .error failure := rfl

end DatasetScript
