import DatasetScript.Proofs.FreeNames
/-!
# Checking in a wider scope

An operator or function gives an expression only if its operands do, all but a conditional whose
condition is the NULL literal. So the names of a node that checks are declared, but for those in the
branches of such conditionals, and further declarations change nothing. Main statements: `binary_demands`
and its companions for the other operators and functions, and `Node.weaken`.
-/

namespace DatasetScript

def Operand.Checked (o : Operand) : Prop := ∃ e, o.expr = .ok e

section

variable {o : Operand}

theorem checked_of_formula {t : ScalarType} {f : Formula t} (h : o.formula t = .ok f) : o.Checked := by
  obtain ⟨e, checked, -⟩ := bind_ok h
  exact ⟨e, checked⟩

theorem checked_of_numeric {n : Numeric} (h : o.numeric = .ok n) : o.Checked := by
  obtain ⟨e, checked, -⟩ := bind_ok h
  exact ⟨e, checked⟩

theorem checked_of_real {f : Formula .number} (h : o.real = .ok f) : o.Checked := by
  obtain ⟨n, asked, -⟩ := bind_ok h
  exact checked_of_numeric asked

end

/-- The check succeeds only if those of the operands do. -/
def Demands (os : List Operand) (x : Except Error Expr) : Prop :=
  Yields (fun _ => ∀ o ∈ os, o.Checked) x

/-! ### Operands that are asked for -/

namespace Demands

variable {α : Type} {o : Operand} {os args : List Operand} {function : String}

theorem none (x : Except Error Expr) : Demands [] x := fun _ _ => List.forall_mem_nil _

theorem error (e : Error) : Demands os (.error e) := Yields.error e

theorem bind {first : Except Error α} {k : α → Except Error Expr}
    (strict : ∀ a, first = .ok a → o.Checked) (later : ∀ a, Demands os (k a)) :
    Demands (o :: os) (first >>= k) := by
  intro r made
  obtain ⟨a, asked, made⟩ := bind_ok made
  exact List.forall_mem_cons.mpr ⟨strict a asked, later a r made⟩

theorem expr {k : Expr → Except Error Expr} (later : ∀ e, Demands os (k e)) :
    Demands (o :: os) (o.expr >>= k) := bind (fun e checked => ⟨e, checked⟩) later

theorem formula {t : ScalarType} {k : Formula t → Except Error Expr} (later : ∀ f, Demands os (k f)) :
    Demands (o :: os) (o.formula t >>= k) := bind (fun _ => checked_of_formula) later

theorem numeric {k : Numeric → Except Error Expr} (later : ∀ n, Demands os (k n)) :
    Demands (o :: os) (o.numeric >>= k) := bind (fun _ => checked_of_numeric) later

theorem real {k : Formula .number → Except Error Expr} (later : ∀ f, Demands os (k f)) :
    Demands (o :: os) (o.real >>= k) := bind (fun _ => checked_of_real) later

theorem query {k : Query → Except Error Expr} (later : ∀ q, Demands os (k q)) :
    Demands (o :: os) (o.query >>= k) :=
  bind (fun q made => ⟨.query q, query_operand made⟩) later

theorem given {t : ScalarType} {default : t.Carrier} {given : Option Operand}
    {k : Formula t → Except Error Expr} (later : ∀ f, Demands os (k f)) :
    Demands (given.toList ++ os) (Operand.formulaOr t default given >>= k) := by
  cases given with
  | none => exact later _
  | some o => exact formula later

/-! ### Numbers of arguments -/

theorem withArguments {least most : Nat}
    {build : Checking.Needed least → (Nat → Option Operand) → Except Error Expr}
    (each : ∀ needed optional, Demands
      (List.ofFn needed ++ (List.range (most - least)).flatMap fun i => (optional i).toList)
      (build needed optional)) :
    Demands args (Checking.withArguments function least most args build) := by
  unfold Checking.withArguments
  split
  · rename_i count
    refine fun e made o member => each _ _ e made o ?_
    obtain ⟨i, inside, rfl⟩ := List.getElem_of_mem member
    by_cases early : i < least
    · exact List.mem_append_left _ (List.mem_ofFn.mpr ⟨⟨i, early⟩, rfl⟩)
    · refine List.mem_append_right _ (List.mem_flatMap.mpr
        ⟨i - least, List.mem_range.mpr (by omega), ?_⟩)
      rw [Option.mem_toList, Nat.add_sub_of_le (Nat.le_of_not_lt early)]
      exact List.getElem?_eq_getElem inside
  · exact error _

section

variable {t : ScalarType} {read : Operand → Except Error (Formula t)}
  (strict : ∀ {o : Operand} {f : Formula t}, read o = .ok f → o.Checked)

include strict

theorem mapCall {u : ScalarType} {g : t.Carrier → Option u.Carrier} :
    Demands args (Checking.mapCall function args read u g) :=
  withArguments fun _ _ => bind (fun _ => strict) fun _ => none _

theorem zipCall {u : ScalarType} {g : t.Carrier → t.Carrier → Option u.Carrier} :
    Demands args (Checking.zipCall function args read u g) :=
  withArguments fun _ _ => bind (fun _ => strict) fun _ => bind (fun _ => strict) fun _ => none _

end

end Demands

/-! ### Operators -/

theorem binary_demands (op : BinaryOp) (left right : Operand) :
    Demands [left, right] (Checking.binary op left right) := by
  cases op with
  | logical op => exact .formula fun _ => .formula fun _ => .none _
  | multiplicative op => exact .numeric fun _ => .numeric fun _ => .none _
  | additive op => exact .expr fun _ => .expr fun _ => .none _
  | comparison op => exact .expr fun _ => .expr fun _ => .none _

theorem unary_demands (op : UnaryOp) (operand : Operand) :
    Demands [operand] (Checking.unary op operand) := by
  cases op with
  | not => exact .formula fun _ => .none _
  | plus => exact .numeric fun _ => .none _
  | minus => exact .numeric fun _ => .none _

theorem membership_demands (negated : Bool) (operand : Operand) (list : List Literal) :
    Demands [operand] (Checking.membership negated operand list) := .expr fun _ => .none _

theorem conditional_of_null {condition thenBranch elseBranch : Operand} {c : Expr}
    (checked : condition.expr = .ok c) (null : c.isNull) :
    Checking.conditional condition thenBranch elseBranch = Expr.typedNull .boolean := by
  unfold Checking.conditional
  rw [checked, ok_bind, if_pos null]

/-- A conditional asks for its branches unless the condition is the NULL literal. -/
theorem conditional_ok {condition thenBranch elseBranch : Operand} {e : Expr}
    (h : Checking.conditional condition thenBranch elseBranch = .ok e) :
    ∃ c, condition.expr = .ok c ∧ (c.isNull ∨ thenBranch.Checked ∧ elseBranch.Checked) := by
  unfold Checking.conditional at h
  obtain ⟨c, checked, h⟩ := bind_ok h
  refine ⟨c, checked, ?_⟩
  split at h
  · rename_i null
    exact .inl null
  · obtain ⟨_, -, h⟩ := bind_ok h
    obtain ⟨t, thenChecked, h⟩ := bind_ok h
    obtain ⟨f, elseChecked, -⟩ := bind_ok h
    exact .inr ⟨⟨t, thenChecked⟩, f, elseChecked⟩

/-! ### Functions -/

section

variable (function : String) (args : List Operand)

theorem textFunction_demands [PatternLanguage] :
    Demands args (Checking.textFunction function args) := by
  unfold Checking.textFunction
  split
  · exact .mapCall checked_of_formula
  · exact .mapCall checked_of_formula
  · exact .mapCall checked_of_formula
  · exact .mapCall checked_of_formula
  · exact .mapCall checked_of_formula
  · exact .mapCall checked_of_formula
  · exact .withArguments fun _ _ => .formula fun _ => .given fun _ => .given fun _ => .none _
  · exact .withArguments fun _ _ => .formula fun _ => .formula fun _ => .given fun _ => .none _
  · exact .withArguments fun _ _ =>
      .formula fun _ => .formula fun _ => .given fun _ => .given fun _ => .none _
  · exact .error _

theorem numericFunction_demands : Demands args (Checking.numericFunction function args) := by
  have whole (rule : Float → Float) : Demands args (Checking.toWhole function args rule) :=
    .withArguments fun _ _ => .numeric fun _ => .none _
  have rounded (rule : Float → Float) : Demands args (Checking.roundCall function args rule) :=
    .withArguments fun _ _ => .real fun _ => .given fun _ => .none _
  unfold Checking.numericFunction
  split
  · exact whole _
  · exact whole _
  · exact .withArguments fun _ _ => .numeric fun _ => .none _
  · exact .mapCall checked_of_real
  · exact .mapCall checked_of_real
  · exact .mapCall checked_of_real
  · exact rounded _
  · exact rounded _
  · exact .withArguments fun _ _ => .numeric fun _ => .numeric fun _ => .none _
  · exact .zipCall checked_of_real
  · exact .zipCall checked_of_real
  · exact .error _

theorem comparisonFunction_demands [PatternLanguage] :
    Demands args (Checking.comparisonFunction function args) := by
  unfold Checking.comparisonFunction
  split
  · exact .withArguments fun _ _ => .expr fun _ => .expr fun _ => .expr fun _ => .none _
  · exact .withArguments fun _ _ => .formula fun _ => .formula fun _ => .none _
  · exact .withArguments fun _ _ => .expr fun _ => .none _
  · exact .error _

theorem distanceFunction_demands : Demands args (Checking.distanceFunction function args) := by
  unfold Checking.distanceFunction
  split
  · exact .zipCall checked_of_formula
  · exact .error _

theorem unionCall_demands : Demands args (Checking.unionCall args) := by
  cases args with
  | nil => exact .error _
  | cons first rest =>
    refine .query fun q r made o member => ?_
    obtain ⟨others, checked, -⟩ := bind_ok made
    obtain ⟨q, -, query⟩ := mapM_each checked member
    exact ⟨.query q, query_operand query⟩

theorem call_demands [PatternLanguage] (family : FunctionFamily) :
    Demands args (Checking.call family function args) := by
  cases family with
  | string => exact textFunction_demands function args
  | numeric => exact numericFunction_demands function args
  | comparison => exact comparisonFunction_demands function args
  | distance => exact distanceFunction_demands function args
  | set =>
    change Demands args (Checking.setFunction function args)
    unfold Checking.setFunction
    split
    · exact unionCall_demands args
    · exact .error _

end

/-! ### Joins -/

theorem joinOperands_demands (taken : List String) (operands : List (Option String × Operand)) :
    Yields (fun _ => ∀ o ∈ operands, o.2.Checked) (Checking.joinOperands taken operands) := by
  induction operands generalizing taken with
  | nil => exact fun _ _ => List.forall_mem_nil _
  | cons entry rest ih =>
    obtain ⟨label, operand⟩ := entry
    intro datasets made
    unfold Checking.joinOperands at made
    obtain ⟨q, query, made⟩ := bind_ok made
    split at made
    · cases made
    · obtain ⟨others, later, -⟩ := bind_ok made
      exact List.forall_mem_cons.mpr ⟨⟨.query q, query_operand query⟩, ih _ others later⟩

theorem join_demands {kind : JoinKind} {operands : List (Option String × Operand)}
    {keys : List String} {e : Expr} (made : Checking.join kind operands keys = .ok e) :
    ∀ o ∈ operands, o.2.Checked := by
  unfold Checking.join at made
  split at made
  · cases made
  · obtain ⟨datasets, checked, -⟩ := bind_ok made
    exact joinOperands_demands [] operands datasets checked

/-! ### Wider scopes -/

/-- Whatever is declared in the first scope is declared alike in the second. -/
def Scope.Within (scope scope' : Scope) : Prop :=
  ∀ name declaration, scope name = some declaration → scope' name = some declaration

/-- The names that are declared in the scope have the same values. -/
def Env.SameIn (scope : Scope) (env env' : Env) : Prop :=
  ∀ name declaration, scope name = some declaration → env name = env' name

section

variable [PatternLanguage] {scope scope' : Scope}

theorem exact_operand_agree {pair : Env → Env → Prop} {node : Node}
    (h : ChecksAgree .exact pair (node.check scope) (node.check scope')) :
    Operand.Agree .exact pair ⟨node, node.check scope⟩ ⟨node, node.check scope'⟩ :=
  operand_agree (Likeness.exact_reflexive.nodes node) h

mutual

/-- A node that checks gives the same expression in a wider scope. -/
theorem Node.weaken (within : scope.Within scope') : (node : Node) → ∀ {e : Expr},
    node.check scope = .ok e →
      ChecksAgree .exact (Env.SameIn scope) (node.check scope) (node.check scope')
  | ⟨form, position⟩, e, checked => by
    obtain ⟨inner, located, -⟩ := bind_ok checked
    exact form_agree form form rfl (form.weaken within (locate_eq_ok_iff.mp located))

theorem Form.weaken (within : scope.Within scope') : (form : Form) → ∀ {e : Expr},
    form.check scope = .ok e →
      ChecksAgree .exact (Env.SameIn scope) (form.check scope) (form.check scope')
  | .literal l, _, _ => literal_agree l
  | .name name, e, checked => by
    cases declared : scope name with
    | none =>
      unfold Form.check Checking.variableNamed at checked
      rw [declared] at checked
      cases checked
    | some declaration =>
      have wider := within name declaration declared
      exact variableNamed_agree (declared.trans wider.symm) fun env env' same =>
        same name declaration declared
  | .binary op left right, e, checked => by
    obtain ⟨⟨l, leftChecked⟩, others⟩ := List.forall_mem_cons.mp (binary_demands op _ _ e checked)
    obtain ⟨r, rightChecked⟩ := others _ List.mem_cons_self
    exact binary_agree op (exact_operand_agree (left.weaken within leftChecked))
      (exact_operand_agree (right.weaken within rightChecked))
  | .unary op operand, e, checked => by
    obtain ⟨o, operandChecked⟩ := unary_demands op _ e checked _ List.mem_cons_self
    exact unary_agree op (exact_operand_agree (operand.weaken within operandChecked))
  | .parenthesis inner, e, checked => inner.weaken within checked
  | .membership negated operand list, e, checked => by
    obtain ⟨o, operandChecked⟩ := membership_demands negated _ list e checked _ List.mem_cons_self
    exact membership_agree negated list (exact_operand_agree (operand.weaken within operandChecked))
  | .conditional condition thenBranch elseBranch, e, checked => by
    obtain ⟨c, conditionChecked, asked⟩ := conditional_ok checked
    have onCondition := condition.weaken within conditionChecked
    obtain null | ⟨⟨t, thenChecked⟩, ⟨f, elseChecked⟩⟩ := asked
    · -- the branches are never looked at, in either scope
      obtain ⟨_, failed, -⟩ | ⟨d, d', first, second, agree⟩ := onCondition.outcomes
      · cases conditionChecked.symm.trans failed
      · cases conditionChecked.symm.trans first
        unfold Form.check
        rw [conditional_of_null first null, conditional_of_null second (agree.isNull_eq ▸ null)]
        exact typedNull_agree .boolean
    · exact conditional_agree (exact_operand_agree onCondition)
        (exact_operand_agree (thenBranch.weaken within thenChecked))
        (exact_operand_agree (elseBranch.weaken within elseChecked))
  | .call family function args, e, checked =>
    call_agree family function (weakenArguments within args (call_demands function _ family e checked))
  | .join kind operands keys, e, checked =>
    join_agree kind keys (weakenOperands within operands (join_demands checked))
  | .clause dataset clause, e, checked => by
    obtain ⟨input, query, -⟩ := bind_ok checked
    have agree := exact_operand_agree (dataset.weaken within (query_operand query))
    refine (query_agree agree).bind fun q r queries => ?_
    exact (clause_agree Likeness.exact_reflexive clause queries).bind fun _ _ results =>
      Expr.Agree.query results

theorem weakenArguments (within : scope.Within scope') : (args : List Node) →
    (∀ o ∈ checkArguments scope args, o.Checked) →
      List.Forall₂ (Operand.Agree .exact (Env.SameIn scope)) (checkArguments scope args)
        (checkArguments scope' args)
  | [], _ => .nil
  | node :: rest, checked => by
    obtain ⟨⟨e, first⟩, later⟩ := List.forall_mem_cons.mp checked
    exact .cons (exact_operand_agree (node.weaken within first)) (weakenArguments within rest later)

theorem weakenOperands (within : scope.Within scope') : (operands : List JoinOperand) →
    (∀ o ∈ checkJoinOperands scope operands, o.2.Checked) →
      List.Forall₂ (JoinOperandsAgree .exact (Env.SameIn scope)) (checkJoinOperands scope operands)
        (checkJoinOperands scope' operands)
  | [], _ => .nil
  | ⟨dataset, label⟩ :: rest, checked => by
    obtain ⟨⟨e, first⟩, later⟩ := List.forall_mem_cons.mp checked
    exact .cons ⟨exact_operand_agree (dataset.weaken within first), rfl⟩
      (weakenOperands within rest later)

end

end

end DatasetScript
