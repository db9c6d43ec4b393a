import DatasetScript.Proofs.Distribution
import DatasetScript.Proofs.ScalarAgreement
/-!
# Agreement of operations on datasets

Clauses, unions and joins of agreeing datasets agree. A join refers to a dataset without an alias by
its text, so the operands must have the same names too. Main statements: `clause_agree`,
`join_agree`, and `call_agree` for calls of all families.
-/

namespace DatasetScript

variable {like : Likeness} {pair : Env → Env → Prop}

/-! ### Clauses -/

/-- A clause reads no more of its dataset than the structure and, once, the rows. -/
theorem clause_agree [PatternLanguage] (reflexive : like.Reflexive) (clause : Clause) {q r : Query}
    (h : q.Agree like pair r) :
    Agree like (Query.Agree like pair) (clause.check q) (clause.check r) := by
  obtain ⟨layout, run⟩ := q
  obtain ⟨layout', run'⟩ := r
  obtain ⟨same, runs⟩ := h
  dsimp only at same
  subst same
  rcases clause.check_runsInput layout with ⟨e, fails⟩ | ⟨output, step, acts⟩
  · rw [show clause.check ⟨layout, run⟩ = _ from fails run,
      show clause.check ⟨layout, run'⟩ = _ from fails run']
    exact reflexive.errors e
  · rw [show clause.check ⟨layout, run⟩ = _ from acts run,
      show clause.check ⟨layout, run'⟩ = _ from acts run']
    exact ⟨rfl, fun env env' paired =>
      (runs env env' paired).bind_same fun _ => .refl reflexive _⟩

/-! ### Unions -/

section

variable {qs rs : List Query}

theorem layouts_eq (h : List.Forall₂ (Query.Agree like pair) qs rs) :
    qs.map Query.layout = rs.map Query.layout := by
  induction h with
  | nil => rfl
  | cons first _ ih => rw [List.map_cons, List.map_cons, first.1, ih]

theorem incompatibleOperand?_eq (layout : Structure) (h : qs.map Query.layout = rs.map Query.layout) :
    Query.incompatibleOperand? layout qs = Query.incompatibleOperand? layout rs := by
  have onLayouts (ps : List Query) : Query.incompatibleOperand? layout ps =
      ((ps.map Query.layout).findIdx? fun s => !s.isCompatibleWith layout).map (· + 1) := by
    rw [List.findIdx?_map]
    rfl
  rw [onLayouts, onLayouts, h]

theorem relaidRows_agree (target : Structure) {q r : Query} {env env' : Env}
    (paired : pair env env') (h : q.Agree like pair r) :
    Agree like Eq (Query.relaidRows target env q) (Query.relaidRows target env' r) := by
  unfold Query.relaidRows
  rw [← h.1]
  exact (h.2 env env' paired).bind_same fun _ => rfl

theorem union_agree (h : List.Forall₂ (Query.Agree like pair) qs rs) :
    Agree like (Query.Agree like pair) (Query.union qs) (Query.union rs) := by
  have layouts := layouts_eq h
  have all := h
  cases h with
  | nil => exact .same_error _ rfl
  | @cons q r qs rs first others =>
    unfold Query.union
    dsimp only
    rw [← first.1, incompatibleOperand?_eq q.layout layouts]
    split
    · exact .same_error _ rfl
    · refine ⟨rfl, fun env env' paired => ?_⟩
      have parts := Agree.mapM_eq all fun _ _ agree => relaidRows_agree q.layout paired agree
      exact parts.bind_same fun cells => .unplaced (.ofCells _ _)

theorem checkArguments_agree {first first' : Operand} (layout : Structure)
    (sameFirst : like.Nodes first.node first'.node) {args args' : List Operand}
    (all : List.Forall₂ (Operand.Agree like pair) args args')
    (h : List.Forall₂ (Query.Agree like pair) qs rs) :
    Agree like Eq (Checking.checkArguments first layout (args.zip qs))
      (Checking.checkArguments first' layout (args'.zip rs)) := by
  induction all generalizing qs rs with
  | nil => exact rfl
  | cons arg _ ih =>
    cases h with
    | nil => exact rfl
    | cons query others =>
      simp only [List.zip_cons_cons, Checking.checkArguments]
      rw [← query.1]
      split
      · exact ih others
      · refine .refused arg.nodes rfl fun strict => ?_
        simp only [Operand.text, arg.nodes.texts strict, sameFirst.texts strict]

theorem unionCall_agree {args args' : List Operand}
    (all : List.Forall₂ (Operand.Agree like pair) args args') :
    ChecksAgree like pair (Checking.unionCall args) (Checking.unionCall args') := by
  cases all with
  | nil => exact .same_error _ rfl
  | cons first rest =>
    refine (query_agree first).bind fun q r agree => ?_
    refine (Agree.mapM rest fun _ _ arg => query_agree arg).bind fun qs rs others => ?_
    rw [← agree.1]
    refine (checkArguments_agree q.layout first.nodes rest others).bind_same fun _ => ?_
    exact (union_agree (.cons agree others)).bind fun _ _ union => Expr.Agree.query union

end

/-! ### Calls -/

theorem call_agree [PatternLanguage] (family : FunctionFamily) (function : String)
    {args args' : List Operand} (all : List.Forall₂ (Operand.Agree like pair) args args') :
    ChecksAgree like pair (Checking.call family function args)
      (Checking.call family function args') := by
  cases family with
  | string => exact textFunction_agree all function
  | numeric => exact numericFunction_agree all function
  | comparison => exact comparisonFunction_agree all function
  | distance => exact distanceFunction_agree all function
  | set =>
    change ChecksAgree like pair (Checking.setFunction function args)
      (Checking.setFunction function args')
    unfold Checking.setFunction
    split
    · exact unionCall_agree all
    · exact .same_error _ rfl

/-! ### Joins -/

section

variable (like pair)

/-- Datasets of a join under one name. -/
def NamedQuery.Agree (a b : String × Query) : Prop := a.1 = b.1 ∧ a.2.Agree like pair b.2

/-- Operands of a join that agree and go by one name. -/
def JoinOperandsAgree (a b : Option String × Operand) : Prop :=
  a.2.Agree like pair b.2 ∧ Checking.joinName a.1 a.2.node = Checking.joinName b.1 b.2.node

variable {like pair}

theorem joinOperands_agree (taken : List String) {operands operands' : List (Option String × Operand)}
    (h : List.Forall₂ (JoinOperandsAgree like pair) operands operands') :
    Agree like (List.Forall₂ (NamedQuery.Agree like pair)) (Checking.joinOperands taken operands)
      (Checking.joinOperands taken operands') := by
  induction h generalizing taken with
  | nil => exact List.Forall₂.nil
  | @cons a b _ _ first _ ih =>
    obtain ⟨label, operand⟩ := a
    obtain ⟨label', operand'⟩ := b
    obtain ⟨agree, name⟩ := first
    dsimp only at agree name
    unfold Checking.joinOperands
    dsimp only
    rw [← name]
    refine (query_agree agree).bind fun q r queries => ?_
    split
    · exact .refused agree.nodes rfl fun _ => rfl
    · exact (ih _).bind fun _ _ others => List.Forall₂.cons ⟨rfl, queries⟩ others

theorem named_layouts_eq {operands operands' : List (String × Query)}
    (h : List.Forall₂ (NamedQuery.Agree like pair) operands operands') :
    operands.map (fun (label, q) => (label, q.layout)) =
      operands'.map (fun (label, q) => (label, q.layout)) := by
  induction h with
  | nil => rfl
  | cons first _ ih =>
    rw [List.map_cons, List.map_cons, ih]
    exact congrArg (· :: _) (Prod.ext first.1 first.2.1)

theorem join_queries_agree (kind : JoinKind) (keys : List Component)
    {operands operands' : List (String × Query)}
    (h : List.Forall₂ (NamedQuery.Agree like pair) operands operands') :
    Agree like (Query.Agree like pair) (Query.join kind operands keys)
      (Query.join kind operands' keys) := by
  unfold Query.join
  rw [← named_layouts_eq h]
  refine (Agree.unplaced (Nodeless.ofOperands _ _ _).unplaced).bind_same fun plan => ⟨rfl, fun env env' paired => ?_⟩
  refine (Agree.mapM_eq h ?_).bind_same fun inputs => .unplaced (.ofCells _ _)
  exact fun a b agree => (agree.2.2 env env' paired).bind_same fun _ => rfl

theorem join_agree (kind : JoinKind) (keys : List String)
    {operands operands' : List (Option String × Operand)}
    (h : List.Forall₂ (JoinOperandsAgree like pair) operands operands') :
    ChecksAgree like pair (Checking.join kind operands keys)
      (Checking.join kind operands' keys) := by
  have empty : operands.isEmpty = operands'.isEmpty := by cases h <;> rfl
  unfold Checking.join
  rw [← empty]
  split
  · exact .same_error _ rfl
  · refine (joinOperands_agree [] h).bind fun datasets datasets' agree => ?_
    have layouts : datasets.map (·.2.layout) = datasets'.map (·.2.layout) := by
      have named := congrArg (List.map Prod.snd) (named_layouts_eq agree)
      rw [List.map_map, List.map_map] at named
      exact named
    rw [← layouts]
    refine (Agree.unplaced (Nodeless.keyComponents _ _ _).unplaced).bind_same fun components => ?_
    exact (join_queries_agree kind components agree).bind fun _ _ joined => Expr.Agree.query joined

end

end DatasetScript
