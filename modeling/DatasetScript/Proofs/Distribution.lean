import DatasetScript.Proofs.Layout
/-!
# Clauses on conditionals

A clause on a conditional does what a conditional of two clauses does, as long as places mean the
same columns in both branches. Main statement: `clauses_distribute_iff` says that this takes
branches in one column order, unless the clause is a filter or the first branch is chosen.
-/

namespace DatasetScript

/-! ### Clauses as steps on datasets -/

/-- Checking reads no more of an input than its structure: either it fails whatever the input runs,
or the result runs the input once and goes on from its dataset. -/
def RunsInput (build : (Env → Except Error Dataset) → Except Error Query) : Prop :=
  (∃ e, ∀ run, build run = .error e) ∨
    ∃ output step, ∀ run, build run = .ok ⟨output, fun env => run env >>= step⟩

namespace RunsInput

variable {α : Type}

theorem error (e : Error) : RunsInput fun _ => .error e := .inl ⟨e, fun _ => rfl⟩

theorem step (output : Structure) (step : Dataset → Except Error Dataset) :
    RunsInput fun run => .ok ⟨output, fun env => run env >>= step⟩ :=
  .inr ⟨output, step, fun _ => rfl⟩

theorem bind {x : Except Error α} {build : α → (Env → Except Error Dataset) → Except Error Query}
    (each : ∀ a, RunsInput (build a)) : RunsInput fun run => x >>= fun a => build a run := by
  cases x with
  | error e => exact error e
  | ok a => exact each a

/-- Where the input is taken, the result takes one step on the datasets of any input. -/
theorem steps {build : (Env → Except Error Dataset) → Except Error Query} (h : RunsInput build)
    {run : Env → Except Error Dataset} {q : Query} (made : build run = .ok q) :
    ∃ step, ∀ run, build run = .ok ⟨q.layout, fun env => run env >>= step⟩ := by
  rcases h with ⟨e, fails⟩ | ⟨output, step, acts⟩
  · cases made.symm.trans (fails run)
  · have own : q = ⟨output, fun env => run env >>= step⟩ :=
      Except.ok.inj (made.symm.trans (acts run))
    rw [own]
    exact ⟨step, acts⟩

end RunsInput

theorem project_runsInput (layout : Structure) (names : List String) :
    RunsInput fun run => Query.project ⟨layout, run⟩ names := by
  unfold Query.project
  dsimp only
  exact .bind fun _ => .bind fun _ => .bind fun _ => .step _ _

theorem aggregate_runsInput (layout output : Structure) (aggregations : List (String × Aggregation))
    (key : Row → List Value) :
    RunsInput fun run => Query.aggregate ⟨layout, run⟩ output aggregations key := by
  unfold Query.aggregate
  dsimp only
  split
  · exact .error _
  · split
    · exact .error _
    · exact .step _ _

section

variable [PatternLanguage]

theorem Clause.check_runsInput (layout : Structure) (clause : Clause) :
    RunsInput fun run => clause.check ⟨layout, run⟩ := by
  unfold Clause.check
  cases clause with
  | calculate items =>
    unfold Checking.calculate Query.calculate
    dsimp only
    exact .bind fun _ => .bind fun _ => .bind fun _ => .step _ _
  | filter predicate =>
    unfold Checking.filter Query.filter
    dsimp only
    exact .bind fun _ => .step _ _
  | rename items =>
    unfold Checking.rename Query.rename
    dsimp only
    split
    · exact .error _
    · exact .bind fun _ => .bind fun _ => .step _ _
  | keep names => exact project_runsInput layout names
  | drop names =>
    unfold Checking.drop
    dsimp only
    split
    · exact .error _
    · exact project_runsInput layout _
  | aggregate items groupBy =>
    unfold Checking.aggregate
    dsimp only
    exact .bind fun _ => .bind fun _ => .bind fun _ => .bind fun _ =>
      aggregate_runsInput layout _ _ _

/-- A clause that can be applied takes one step on the datasets of any input of the structure. -/
theorem Clause.check_steps {clause : Clause} {input q : Query} (h : clause.check input = .ok q) :
    ∃ step, ∀ run, clause.check ⟨input.layout, run⟩ = .ok ⟨q.layout, fun env => run env >>= step⟩ :=
  (clause.check_runsInput input.layout).steps h

end

/-! ### Clauses on compatible structures -/

section

variable {a b p q : Structure}

theorem column_eq_of_isCompatibleWith (compatible : a.isCompatibleWith b) : a.column = b.column := by
  funext name
  unfold Structure.column
  rw [Structure.get?_eq_of_isCompatibleWith compatible]

/-- A calculated column in the place of an old one. -/
def recalculated (roles : List (String × Role)) (name : String) (type : DataType) (c : Component) :
    Component :=
  if c.name = name then ⟨name, type, (Assoc.find? roles name).getD c.role⟩ else c

variable {roles : List (String × Role)} {name : String} {type : DataType} {e : Expr}

theorem recalculated_name (c : Component) : (recalculated roles name type c).name = c.name := by
  unfold recalculated
  split
  · rename_i same
    exact same.symm
  · rfl

theorem putColumn_components {columns : List Query.Column}
    (nodup : ((columns.map Query.Column.component).map Component.name).Nodup) :
    (Query.putColumn roles columns name type e).map Query.Column.component =
      if name ∈ (columns.map Query.Column.component).map Component.name then
        (columns.map Query.Column.component).map (recalculated roles name type)
      else
        columns.map Query.Column.component ++
          [⟨name, type, (Assoc.find? roles name).getD .measure⟩] := by
  induction columns with
  | nil => rfl
  | cons c rest ih =>
    obtain ⟨absent, nodup⟩ := List.nodup_cons.mp nodup
    unfold Query.putColumn
    split
    · rename_i same
      have others : (rest.map Query.Column.component).map (recalculated roles name type) =
          rest.map Query.Column.component := by
        refine (List.map_congr_left fun d member => ?_).trans (List.map_id _)
        have different : d.name ≠ name := fun equal =>
          absent (List.mem_map.mpr ⟨d, member, equal.trans same.symm⟩)
        simp [recalculated, different]
      simp only [List.map_cons, others]
      simp [recalculated, same]
    · rename_i different
      simp only [List.map_cons, ih nodup, List.mem_cons, Ne.symm different, false_or]
      split
      · simp [recalculated, different]
      · rfl

theorem putColumn_names_nodup {columns : List Query.Column}
    (nodup : ((columns.map Query.Column.component).map Component.name).Nodup) :
    (((Query.putColumn roles columns name type e).map Query.Column.component).map
      Component.name).Nodup := by
  rw [putColumn_components nodup]
  split
  · rw [List.map_map, show Component.name ∘ recalculated roles name type = Component.name from
      funext recalculated_name]
    exact nodup
  · rename_i absent
    rw [List.map_append, List.nodup_append]
    refine ⟨nodup, List.nodup_singleton _, fun old member new here => ?_⟩
    rw [List.map_singleton, List.mem_singleton] at here
    subst here
    exact fun equal => absent (equal ▸ member)

theorem putColumns_perm {items : List (String × Expr)} {cs ds cs' ds' : List Query.Column}
    (nodup : ((cs.map Query.Column.component).map Component.name).Nodup)
    (perm : (cs.map Query.Column.component).Perm (ds.map Query.Column.component))
    (first : Query.putColumns roles cs items = .ok cs')
    (second : Query.putColumns roles ds items = .ok ds') :
    (cs'.map Query.Column.component).Perm (ds'.map Query.Column.component) := by
  induction items generalizing cs ds with
  | nil =>
    cases first
    cases second
    exact perm
  | cons item rest ih =>
    obtain ⟨name, e⟩ := item
    unfold Query.putColumns at first second
    split at first
    · rename_i t known
      rw [known] at second
      refine ih (putColumn_names_nodup nodup) ?_ first second
      have nodup' := (perm.map Component.name).nodup_iff.mp nodup
      rw [putColumn_components nodup, putColumn_components nodup']
      simp only [(perm.map Component.name).mem_iff]
      split
      · exact perm.map _
      · exact perm.append_right _
    · cases first

theorem calculations_eq_of_isCompatibleWith (compatible : a.isCompatibleWith b)
    (taken : List String) (items : List Checking.Calculation) :
    Checking.calculations a taken items = Checking.calculations b taken items := by
  induction items generalizing taken with
  | nil => rfl
  | cons item rest ih =>
    unfold Checking.calculations Checking.calculation
    rw [Structure.get?_eq_of_isCompatibleWith compatible, ih]

variable {first second : Env → Except Error Dataset} {s t : Query}

theorem calculate_compatible {items : List (String × Expr)} (compatible : a.isCompatibleWith b)
    (onFirst : Query.calculate ⟨a, first⟩ items roles = .ok s)
    (onSecond : Query.calculate ⟨b, second⟩ items roles = .ok t) :
    s.layout.isCompatibleWith t.layout := by
  obtain ⟨columns, put, components, -⟩ := Query.calculate_made onFirst
  obtain ⟨columns', put', components', -⟩ := Query.calculate_made onSecond
  rw [Structure.isCompatibleWith_iff_perm, components, components']
  refine putColumns_perm ?_ ?_ put put'
  · rw [Query.ownColumns_components]
    exact a.nodup
  · rw [Query.ownColumns_components, Query.ownColumns_components]
    exact Structure.isCompatibleWith_iff_perm.mp compatible

theorem rename_compatible {renames : List (String × String)} (compatible : a.isCompatibleWith b)
    (onFirst : Query.rename ⟨a, first⟩ renames = .ok s)
    (onSecond : Query.rename ⟨b, second⟩ renames = .ok t) : s.layout.isCompatibleWith t.layout := by
  obtain ⟨-, components, -⟩ := Query.rename_made onFirst
  obtain ⟨-, components', -⟩ := Query.rename_made onSecond
  rw [Structure.isCompatibleWith_iff_perm, components, components']
  exact (Structure.isCompatibleWith_iff_perm.mp compatible).map _

/-- Picking columns by names that come in another order gives them in that order. -/
theorem project_compatible {names names' : List String} (compatible : a.isCompatibleWith b)
    (perm : names.Perm names') (onFirst : Query.project ⟨a, first⟩ names = .ok s)
    (onSecond : Query.project ⟨b, second⟩ names' = .ok t) :
    s.layout.isCompatibleWith t.layout := by
  obtain ⟨columns, -⟩ := Query.project_made onFirst
  obtain ⟨columns', -⟩ := Query.project_made onSecond
  rw [← column_eq_of_isCompatibleWith compatible] at columns'
  exact Structure.isCompatibleWith_iff_perm.mpr (mapM_perm perm columns columns')

theorem aggregate_compatible {items : List Checking.Collection} {groupBy : List String}
    (compatible : a.isCompatibleWith b) (onFirst : Checking.aggregate ⟨a, first⟩ items groupBy = .ok s)
    (onSecond : Checking.aggregate ⟨b, second⟩ items groupBy = .ok t) :
    s.layout.isCompatibleWith t.layout := by
  obtain ⟨groups, columns, -, found, collected, made, -⟩ := Checking.aggregate_made onFirst
  obtain ⟨groups', columns', -, found', collected', made', -⟩ := Checking.aggregate_made onSecond
  dsimp only at found found'
  rw [← column_eq_of_isCompatibleWith compatible, found] at found'
  cases Except.ok.inj found'
  cases Except.ok.inj (collected.symm.trans collected')
  exact Except.ok.inj (made.symm.trans made') ▸ Structure.isCompatibleWith_refl _

/-- A clause on compatible datasets gives compatible datasets. -/
theorem Clause.check_compatible [PatternLanguage] {clause : Clause} (compatible : a.isCompatibleWith b)
    (onFirst : clause.check ⟨a, first⟩ = .ok s) (onSecond : clause.check ⟨b, second⟩ = .ok t) :
    s.layout.isCompatibleWith t.layout := by
  have names := (Structure.isCompatibleWith_iff_perm.mp compatible).map Component.name
  have scope := Structure.scope_eq_of_isCompatibleWith compatible
  unfold Clause.check at onFirst onSecond
  dsimp only at onFirst onSecond
  rw [← scope] at onSecond
  cases clause with
  | calculate items =>
    dsimp only [Checking.calculate] at onFirst onSecond
    rw [← calculations_eq_of_isCompatibleWith compatible] at onSecond
    obtain ⟨expressions, typed, onFirst⟩ := bind_ok onFirst
    rw [typed, ok_bind] at onSecond
    exact calculate_compatible compatible onFirst onSecond
  | filter predicate =>
    obtain ⟨f, -, onFirst⟩ := bind_ok onFirst
    obtain ⟨g, -, onSecond⟩ := bind_ok onSecond
    rw [pure_ok onFirst, pure_ok onSecond]
    exact compatible
  | rename items =>
    dsimp only [Checking.rename] at onFirst onSecond
    split at onFirst
    · cases onFirst
    · rename_i distinct
      rw [distinct] at onSecond
      exact rename_compatible compatible onFirst onSecond
  | keep names => exact project_compatible compatible (List.Perm.refl _) onFirst onSecond
  | drop dropped =>
    dsimp only [Checking.drop] at onFirst onSecond
    split at onFirst
    · cases onFirst
    · split at onSecond
      · cases onSecond
      · exact project_compatible compatible (names.filter _) onFirst onSecond
  | aggregate items groupBy => exact aggregate_compatible compatible onFirst onSecond

end

/-! ### Distributing a clause -/

/-- Both fail, or both give datasets whose rows, in order, hold the same cell under every name. -/
def SameOutcome : Except Error Dataset → Except Error Dataset → Prop
  | .ok d, .ok e => List.Forall₂ (fun r s => ∀ name, r.get? name = s.get? name) d.rows e.rows
  | .error _, .error _ => True
  | _, _ => False

/-- A clause and the conditional that it is applied to. -/
structure ClauseOnChoice where
  condition : Node
  thenBranch : Node
  elseBranch : Node
  clause : Clause
  choicePosition : Option Position
  clausePosition : Option Position

namespace ClauseOnChoice

/-- The clause applied to the conditional. -/
def whole (x : ClauseOnChoice) : Node :=
  ⟨.clause ⟨.conditional x.condition x.thenBranch x.elseBranch, x.choicePosition⟩ x.clause,
    x.clausePosition⟩

def onThen (x : ClauseOnChoice) : Node := ⟨.clause x.thenBranch x.clause, x.clausePosition⟩

def onElse (x : ClauseOnChoice) : Node := ⟨.clause x.elseBranch x.clause, x.clausePosition⟩

/-- The conditional of the clause applied to each branch. -/
def split (x : ClauseOnChoice) : Node :=
  ⟨.conditional x.condition x.onThen x.onElse, x.choicePosition⟩

/-- Where the clause can be applied to the conditional and to each branch, the conditional of the
results can be checked too and has the same outcome. -/
def Distributes [PatternLanguage] (x : ClauseOnChoice) (scope : Scope) (env : Env) : Prop :=
  ∀ w t e, x.whole.check scope = .ok (.query w) → x.onThen.check scope = .ok (.query t) →
    x.onElse.check scope = .ok (.query e) →
      ∃ s, x.split.check scope = .ok (.query s) ∧ SameOutcome (w.run env) (s.run env)

end ClauseOnChoice

theorem SameOutcome.refl (x : Except Error Dataset) : SameOutcome x x := by
  cases x with
  | error e => trivial
  | ok d => exact List.forall₂_same.mpr fun _ _ _ => rfl

theorem sameOutcome_locate {p q : Option Position} {x y : Except Error Dataset}
    (same : SameOutcome x y) : SameOutcome (locate p x) (locate q y) := by
  cases x <;> cases y <;> exact same

theorem sameOutcome_bind {p q : Option Position} {x : Except Error Dataset}
    {f g : Dataset → Except Error Dataset} (each : ∀ d, SameOutcome (f d) (g d)) :
    SameOutcome (locate p x >>= f) (locate q (x >>= g)) := by
  cases x with
  | error e => trivial
  | ok d =>
    have located := sameOutcome_locate (p := none) (q := q) (each d)
    rw [locate_none] at located
    exact located

theorem conditional_of_queries {condition thenBranch elseBranch : Operand} {c : Formula .boolean}
    {t e : Query} (decides : condition.Decides c) (thenChecked : thenBranch.expr = .ok (.query t))
    (elseChecked : elseBranch.expr = .ok (.query e))
    (compatible : t.layout.isCompatibleWith e.layout) :
    Checking.conditional condition thenBranch elseBranch =
      .ok (.query ⟨t.layout, Checking.choose c t.run e.run⟩) := by
  obtain ⟨ce, conditionChecked, typed, formula⟩ := decides
  unfold Checking.conditional
  rw [conditionChecked, ok_bind]
  simp only [typed, formula, thenChecked, elseChecked, ok_bind]
  simp [Checking.unifyBranches, Expr.type?, compatible, pure, Except.pure]

section

variable [PatternLanguage]

theorem clauseNode_query {scope : Scope} {dataset : Node} {clause : Clause} {p : Option Position}
    {q : Query} (h : Node.check scope ⟨.clause dataset clause, p⟩ = .ok (.query q)) :
    ∃ input out, dataset.check scope = .ok (.query input) ∧ clause.check input = .ok out ∧
      q = out.locate p := by
  obtain ⟨out, formChecked, located⟩ := check_query h
  obtain ⟨input, inputChecked, clauseChecked⟩ := clause_query formChecked
  exact ⟨input, out, inputChecked, clauseChecked, located⟩

theorem clauseNode_of_query {scope : Scope} {dataset : Node} {input out : Query} (clause : Clause)
    (p : Option Position) (inputChecked : dataset.check scope = .ok (.query input))
    (clauseChecked : clause.check input = .ok out) :
    Node.check scope ⟨.clause dataset clause, p⟩ = .ok (.query (out.locate p)) := by
  apply check_of_form (.clause dataset clause)
  unfold Form.check Operand.query
  rw [inputChecked, ok_bind]
  change (do return Expr.query (← clause.check input)) = _
  rw [clauseChecked]
  rfl

/-- A clause distributes if its steps on the datasets of both branches agree, unless only the first
branch is used. -/
theorem distributes_of_steps {x : ClauseOnChoice} {scope : Scope} {env : Env} {a b : Structure}
    (thenLayout : x.thenBranch.layout? scope = some a)
    (elseLayout : x.elseBranch.layout? scope = some b)
    (agree : x.condition.holds scope env = true ∨ ∀ out out' step step',
      (∀ run, x.clause.check ⟨a, run⟩ = .ok ⟨out, fun env => run env >>= step⟩) →
      (∀ run, x.clause.check ⟨b, run⟩ = .ok ⟨out', fun env => run env >>= step'⟩) →
        ∀ d, SameOutcome (step d) (step' d)) :
    x.Distributes scope env := by
  intro w t e wholeChecked thenChecked elseChecked
  obtain ⟨choice, whole, choiceChecked, onChoice, rfl⟩ := clauseNode_query wholeChecked
  obtain ⟨form, formChecked, rfl⟩ := check_query choiceChecked
  obtain ⟨c, first, second, decides, firstChecked, secondChecked, compatible, rfl⟩ :=
    conditional_query formChecked
  obtain ⟨first', onFirst, firstChecked', clauseOnFirst, rfl⟩ := clauseNode_query thenChecked
  obtain ⟨second', onSecond, secondChecked', clauseOnSecond, rfl⟩ := clauseNode_query elseChecked
  cases check_unique firstChecked firstChecked'
  cases check_unique secondChecked secondChecked'
  cases layout_eq_of_check firstChecked thenLayout
  cases layout_eq_of_check secondChecked elseLayout
  obtain ⟨step, acts⟩ := Clause.check_steps clauseOnFirst
  obtain ⟨step', acts'⟩ := Clause.check_steps clauseOnSecond
  have outputs := Clause.check_compatible compatible clauseOnFirst clauseOnSecond
  have splitChecked := check_of_form (.conditional x.condition x.onThen x.onElse)
    x.choicePosition (conditional_of_queries decides thenChecked elseChecked outputs)
  have wholeRuns := Except.ok.inj (onChoice.symm.trans (acts _))
  have thenRuns := Except.ok.inj (clauseOnFirst.symm.trans (acts _))
  have elseRuns := Except.ok.inj (clauseOnSecond.symm.trans (acts' _))
  refine ⟨_, splitChecked, ?_⟩
  rw [wholeRuns, thenRuns, elseRuns]
  refine sameOutcome_locate ?_
  dsimp only [Query.locate, Checking.choose]
  cases resolved : c env with
  | error e => trivial
  | ok b =>
    have value := holds_of_decides decides resolved
    by_cases chosen : b = some true
    · simp only [chosen, ok_bind, if_true]
      exact sameOutcome_bind fun d => .refl _
    · simp only [chosen, ok_bind, if_false]
      have steps := agree.resolve_left (by simp [value, chosen])
      exact sameOutcome_bind (steps _ _ _ _ acts acts')

end

/-! ### Where clauses distribute -/

theorem steps_eq {build build' : (Env → Except Error Dataset) → Except Error Query}
    {out out' : Structure} {step step' : Dataset → Except Error Dataset} (same : build = build')
    (acts : ∀ run, build run = .ok ⟨out, fun env => run env >>= step⟩)
    (acts' : ∀ run, build' run = .ok ⟨out', fun env => run env >>= step'⟩) : step = step' := by
  funext d
  have runs := (acts fun _ => .ok d).symm.trans (same ▸ acts' fun _ => .ok d)
  have results := congrArg Query.run (Except.ok.inj runs)
  exact congrFun results fun _ => none

theorem filter_steps [PatternLanguage] {a b out out' : Structure} {predicate : Node}
    {step step' : Dataset → Except Error Dataset} (compatible : a.isCompatibleWith b)
    (acts : ∀ run, (Clause.filter predicate).check ⟨a, run⟩ =
      .ok ⟨out, fun env => run env >>= step⟩)
    (acts' : ∀ run, (Clause.filter predicate).check ⟨b, run⟩ =
      .ok ⟨out', fun env => run env >>= step'⟩) (d : Dataset) : SameOutcome (step d) (step' d) := by
  obtain ⟨f, formula, filtered⟩ := filter_query (acts fun _ => .ok d)
  obtain ⟨g, formula', filtered'⟩ := filter_query (acts' fun _ => .ok d)
  dsimp only at formula formula'
  rw [← Structure.scope_eq_of_isCompatibleWith compatible, formula] at formula'
  have result := congrFun (congrArg Query.run filtered) fun _ => none
  have result' := congrFun (congrArg Query.run filtered') fun _ => none
  rw [← Except.ok.inj formula'] at result'
  change step d = (do return ⟨a, ← Query.keepRows f d.rows⟩) at result
  change step' d = (do return ⟨b, ← Query.keepRows f d.rows⟩) at result'
  rw [result, result']
  cases Query.keepRows f d.rows with
  | error e => trivial
  | ok rows => exact List.forall₂_same.mpr fun _ _ _ => rfl

/-! ### Columns in other places -/

theorem exists_misplaced {a b : Structure} (compatible : a.isCompatibleWith b)
    (different : a.names ≠ b.names) :
    ∃ c i j, a.get? c.name = some c ∧ a.indexOf? c.name = some i ∧ b.indexOf? c.name = some j ∧
      i ≠ j := by
  by_contra aligned
  push Not at aligned
  apply different
  have perm := Structure.isCompatibleWith_iff_perm.mp compatible
  apply List.ext_getElem (by simpa [Structure.names] using perm.length_eq)
  intro i onLeft onRight
  have bound : i < a.components.length := by simpa [Structure.names] using onLeft
  have own : a.get? a.components[i].name = some a.components[i] :=
    Structure.get?_eq_some_iff.mpr ⟨List.getElem_mem bound, rfl⟩
  have other := own
  rw [Structure.get?_eq_of_isCompatibleWith compatible] at other
  obtain ⟨j, place, at_j⟩ := Structure.exists_indexOf? other
  have at_i : a.indexOf? a.components[i].name = some i :=
    Structure.indexOf?_eq_some_iff.mpr ⟨_, List.getElem?_eq_getElem bound, rfl⟩
  have same := aligned _ i j own at_i place
  subst same
  obtain ⟨_, here⟩ := List.getElem?_eq_some_iff.mp at_j
  simp [Structure.names, here]

/-- The structure with one column. -/
def Structure.single (c : Component) : Structure := ⟨[c], List.nodup_singleton _⟩

theorem project_single {input : Query} {c : Component} {i : Nat}
    (found : input.layout.get? c.name = some c) (place : input.layout.indexOf? c.name = some i) :
    input.project [c.name] = .ok ⟨.single c, fun env => do
      let d ← input.run env
      Query.layRows (.single c) (d.rows.map (·.pick [i]))⟩ := by
  have column : input.layout.column c.name = .ok c := by simp [Structure.column, found]
  have made : Structure.ofComponents [c] = .ok (.single c) :=
    Structure.ofComponents_components (.single c)
  unfold Query.project
  simp [List.mapM_cons, column, Structure.place_of_indexOf? place, pure, Except.pure, made]

namespace Branches

/-- A row that holds a value in one column only. -/
def marked (s : Structure) (name : String) : Row :=
  ⟨s, s.names.map fun other => if other = name then .boolean true else .null⟩

theorem marked_cell {s : Structure} {name : String} {i j : Nat} (place : s.indexOf? name = some j) :
    (marked s name).cell i = if i = j then .boolean true else .null := by
  have held : (marked s name).cells[i]? =
      s.components[i]?.map fun c => if c.name = name then .boolean true else .null := by
    simp only [marked, Structure.names, List.getElem?_map, Option.map_map]
    rfl
  unfold Row.cell
  rw [held]
  cases at_i : s.components[i]? with
  | none =>
    obtain ⟨c, at_j, -⟩ := Structure.indexOf?_eq_some_iff.mp place
    have other : i ≠ j := by
      rintro rfl
      cases at_i.symm.trans at_j
    simp [other]
  | some c =>
    have here : c.name = name ↔ i = j := by
      constructor
      · intro named
        have found := Structure.indexOf?_eq_some_iff.mpr ⟨c, at_i, named⟩
        exact Option.some.inj (found.symm.trans place)
      · rintro rfl
        obtain ⟨d, at_j, named⟩ := Structure.indexOf?_eq_some_iff.mp place
        rw [← named, Option.some.inj (at_i.symm.trans at_j)]
    simp [here]

theorem bound_second (a b : Structure) {rows : List Row} :
    Checking.boundDataset "b" b (bindings a b rows).env = .ok ⟨b, rows⟩ := by
  change Dataset.conform b "b" ⟨b, rows⟩ = _
  simp [Dataset.conform, Structure.isCompatibleWith_refl]

/-- Keeping one column of the second of two datasets. -/
def keepChosen (name : String) : ClauseOnChoice :=
  ⟨literalFalse, first, second, .keep [name], none, none⟩

theorem single_get (c : Component) (v : Value) :
    Row.get? ⟨.single c, [v]⟩ c.name = some v := by
  simp [Row.get?, Structure.indexOf?, Structure.single]

section

variable [PatternLanguage]

theorem first_check (a b : Structure) (rows : List Row) :
    first.check (bindings a b rows).scope =
      .ok (.query (Query.locate none ⟨a, Checking.boundDataset "a" a⟩)) := rfl

theorem second_check (a b : Structure) (rows : List Row) :
    second.check (bindings a b rows).scope =
      .ok (.query (Query.locate none ⟨b, Checking.boundDataset "b" b⟩)) := rfl

theorem false_decides (scope : Scope) :
    Operand.Decides ⟨literalFalse, literalFalse.check scope⟩
      (Formula.locate none (.constant (some false))) := ⟨_, rfl, rfl, rfl⟩

theorem keepChosen_not_distributes {a b : Structure} {c : Component} {i j : Nat}
    (compatible : a.isCompatibleWith b) (found : a.get? c.name = some c)
    (onLeft : a.indexOf? c.name = some i) (onRight : b.indexOf? c.name = some j) (other : i ≠ j) :
    ¬ (keepChosen c.name).Distributes (bindings a b [marked b c.name]).scope
      (bindings a b [marked b c.name]).env := by
  intro distributes
  have found' := found
  rw [Structure.get?_eq_of_isCompatibleWith compatible] at found'
  have firstChecked := first_check a b [marked b c.name]
  have secondChecked := second_check a b [marked b c.name]
  have decides := false_decides (bindings a b [marked b c.name]).scope
  have choiceChecked := check_of_form (.conditional literalFalse first second) none
    (conditional_of_queries decides firstChecked secondChecked compatible)
  have keepsFirst := clauseNode_of_query (.keep [c.name]) none firstChecked
    (project_single found onLeft)
  have keepsSecond := clauseNode_of_query (.keep [c.name]) none secondChecked
    (project_single found' onRight)
  have keepsChoice := clauseNode_of_query (.keep [c.name]) none choiceChecked
    (project_single found onLeft)
  have splitChecked := check_of_form
    (.conditional literalFalse (keepChosen c.name).onThen (keepChosen c.name).onElse) none
    (conditional_of_queries decides keepsFirst keepsSecond (Structure.isCompatibleWith_refl _))
  obtain ⟨s, checked, same⟩ := distributes _ _ _ keepsChoice keepsFirst keepsSecond
  cases check_unique checked splitChecked
  simp only [Query.locate, locate_none, Checking.choose, Formula.locate, Formula.constant, ok_bind,
    bound_second, Option.some.injEq, Bool.false_eq_true, if_false, List.map_cons, List.map_nil] at same
  rw [layRows_of_width (by simp [Row.pick, Structure.single, Structure.size]),
    layRows_of_width (by simp [Row.pick, Structure.single, Structure.size])] at same
  have cells := (List.forall₂_cons.mp same).1 c.name
  simp only [Row.pick, List.map_cons, List.map_nil, single_get, marked_cell onRight, other, if_false,
    if_true] at cells
  cases cells

end

end Branches

/-- Clauses distribute over conditionals of two structures if and only if these are in one column
order. In any order filters do, and other clauses where the first branch is chosen. -/
theorem clauses_distribute_iff [PatternLanguage] {a b : Structure} (compatible : a.isCompatibleWith b) :
    ((∀ (x : ClauseOnChoice) (scope : Scope) (env : Env), x.thenBranch.layout? scope = some a →
        x.elseBranch.layout? scope = some b → x.Distributes scope env) ↔ a.names = b.names) ∧
      ∀ (x : ClauseOnChoice) (scope : Scope) (env : Env), x.thenBranch.layout? scope = some a →
        x.elseBranch.layout? scope = some b →
          (x.condition.holds scope env ∨ ∃ predicate, x.clause = .filter predicate) →
            x.Distributes scope env := by
  refine ⟨⟨fun distribute => ?_, fun names x scope env thenLayout elseLayout => ?_⟩,
    fun x scope env thenLayout elseLayout harmless => ?_⟩
  · by_contra different
    obtain ⟨c, i, j, found, onLeft, onRight, other⟩ := exists_misplaced compatible different
    exact Branches.keepChosen_not_distributes compatible found onLeft onRight other
      (distribute _ _ _ rfl rfl)
  · have same := Structure.eq_of_isCompatibleWith compatible names
    subst same
    refine distributes_of_steps thenLayout elseLayout (.inr fun _ _ _ _ acts acts' d => ?_)
    rw [steps_eq rfl acts acts']
    exact .refl _
  · refine distributes_of_steps thenLayout elseLayout (harmless.imp_right ?_)
    rintro ⟨predicate, isFilter⟩ out out' step step' acts acts' d
    rw [isFilter] at acts acts'
    exact filter_steps compatible acts acts' d

open Branches in
theorem clauses_not_distribute_swapped :
    pair.isCompatibleWith swapped ∧
      ¬ ∀ (x : ClauseOnChoice) (scope : Scope) (env : Env),
        x.thenBranch.layout? scope = some pair → x.elseBranch.layout? scope = some swapped →
          x.Distributes scope env := by
  have compatible : pair.isCompatibleWith swapped := by decide
  refine ⟨compatible, fun distribute => ?_⟩
  have names := (clauses_distribute_iff compatible).1.mp distribute
  revert names
  decide

end DatasetScript
