import DatasetScript.Pattern.Matcher
import DatasetScript.Proofs.Rows
import DatasetScript.Proofs.Scalars
/-!
# Column order of resolved datasets

Operations read rows by place, so a dataset should order its columns, and those of its rows, as the
structure that checking finds. Most operations lay their rows out anew; filters, parentheses and
conditionals hand rows on as they are. Main statements: `run_resolves` says how a node comes to its
dataset, and `laidOutBy_iff` that the order is kept exactly if the nodes that hand over the dataset
and its rows have that order.
-/

namespace DatasetScript

/-- Every bound dataset is laid out like its rows. -/
def Env.Uniform (env : Env) : Prop :=
  ∀ name d, env name = some (.dataset d) → ∀ r ∈ d.rows, r.layout = d.layout

namespace Node

variable [PatternLanguage]

/-- The structure that checking finds for a node that stands for a dataset. -/
def layout? (scope : Scope) (node : Node) : Option Structure :=
  match node.check scope with
  | .ok (.query q) => some q.layout
  | _ => none

/-- Whether a condition resolves to true. -/
def holds (scope : Scope) (env : Env) (node : Node) : Bool :=
  match node.check scope with
  | .ok e =>
    match e.resolve env with
    | .ok (.boolean b) => b
    | _ => false
  | _ => false

/-- The node whose dataset a node hands on: the one in parentheses, or the chosen branch. -/
def carrier (scope : Scope) (env : Env) : Node → Node
  | ⟨.parenthesis inner, _⟩ => inner.carrier scope env
  | ⟨.conditional condition thenBranch elseBranch, _⟩ =>
    if condition.holds scope env then thenBranch.carrier scope env
    else elseBranch.carrier scope env
  | node => node

/-- The node whose rows a node hands on, seen through filters too. -/
def source (scope : Scope) (env : Env) : Node → Node
  | ⟨.parenthesis inner, _⟩ => inner.source scope env
  | ⟨.conditional condition thenBranch elseBranch, _⟩ =>
    if condition.holds scope env then thenBranch.source scope env
    else elseBranch.source scope env
  | ⟨.clause dataset (.filter _), _⟩ => dataset.source scope env
  | node => node

/-- Every conditional that hands on rows of a node has branches in one column order. -/
def KeepsOrder (scope : Scope) : Node → Prop
  | ⟨.parenthesis inner, _⟩ => inner.KeepsOrder scope
  | ⟨.conditional _ thenBranch elseBranch, _⟩ =>
    thenBranch.layout? scope = elseBranch.layout? scope ∧
      thenBranch.KeepsOrder scope ∧ elseBranch.KeepsOrder scope
  | ⟨.clause dataset (.filter _), _⟩ => dataset.KeepsOrder scope
  | _ => True

end Node

/-! ### Checked datasets -/

theorem locate_query {e : Expr} {p : Option Position} {q : Query} (h : e.locate p = .query q) :
    ∃ inner, e = .query inner ∧ q = inner.locate p := by
  cases e with
  | null => cases h
  | scalar t f => cases h
  | query inner => exact ⟨inner, rfl, (Expr.query.inj h).symm⟩

section

variable [PatternLanguage]

theorem check_query {scope : Scope} {form : Form} {p : Option Position} {q : Query}
    (h : Node.check scope ⟨form, p⟩ = .ok (.query q)) :
    ∃ inner, form.check scope = .ok (.query inner) ∧ q = inner.locate p := by
  unfold Node.check at h
  obtain ⟨e, checked, h⟩ := bind_ok h
  obtain ⟨inner, rfl, rfl⟩ := locate_query (pure_ok h).symm
  exact ⟨inner, locate_eq_ok_iff.mp checked, rfl⟩

theorem check_of_form {scope : Scope} {q : Query} (form : Form) (p : Option Position)
    (h : form.check scope = .ok (.query q)) :
    Node.check scope ⟨form, p⟩ = .ok (.query (q.locate p)) := by
  unfold Node.check
  rw [h]
  rfl

end

/-! ### Conditionals -/

theorem unifyBranches_query {t e : Expr} {thenBranch elseBranch : Operand} {p q : Query}
    (h : Checking.unifyBranches t e thenBranch elseBranch = .ok (.query p, .query q)) :
    t = .query p ∧ e = .query q := by
  cases t <;> cases e
  case query.query => simpa [Checking.unifyBranches, Expr.type?, pure, Except.pure] using h
  all_goals
    simp [Checking.unifyBranches, Expr.type?, Expr.asType, Expr.typedNull, Expr.ofValues, pure,
      Except.pure] at h

/-- The operand is the condition of a conditional that chooses by a formula. -/
def Operand.Decides (o : Operand) (c : Formula .boolean) : Prop :=
  ∃ e, o.expr = .ok e ∧ e.isNull = false ∧ e.asFormula .boolean o.node = .ok c

/-- A conditional for a dataset has two compatible branches and resolves one of them. -/
theorem conditional_query {condition thenBranch elseBranch : Operand} {q : Query}
    (h : Checking.conditional condition thenBranch elseBranch = .ok (.query q)) :
    ∃ c t e, condition.Decides c ∧ thenBranch.expr = .ok (.query t) ∧
      elseBranch.expr = .ok (.query e) ∧ t.layout.isCompatibleWith e.layout ∧
      q = ⟨t.layout, Checking.choose c t.run e.run⟩ := by
  unfold Checking.conditional at h
  obtain ⟨ce, conditionChecked, h⟩ := bind_ok h
  split at h
  · exact ((Checking.Single.ofValues _ _).not_query _ h).elim
  rename_i typed
  obtain ⟨c, formula, h⟩ := bind_ok h
  obtain ⟨t, thenChecked, h⟩ := bind_ok h
  obtain ⟨e, elseChecked, h⟩ := bind_ok h
  obtain ⟨⟨t', e'⟩, unified, chosen⟩ := bind_ok h
  split at chosen
  · rename_i pair t' e' both
    cases both
    obtain ⟨rfl, rfl⟩ := unifyBranches_query unified
    split at chosen
    · rename_i compatible
      have decides : condition.Decides c := ⟨ce, conditionChecked, by simpa using typed, formula⟩
      cases chosen
      exact ⟨c, t', e', decides, thenChecked, elseChecked, compatible, rfl⟩
    · cases chosen
  · -- branches that are not both datasets give a single value
    split at chosen
    · cases chosen
    · split at chosen
      · exact ((Checking.Single.ofValues _ _).not_query _ chosen).elim
      · cases chosen
    · exact ((Checking.Single.ofValues _ _).not_query _ chosen).elim
    · exact ((Checking.Single.ofValues _ _).not_query _ chosen).elim

theorem holds_of_decides [PatternLanguage] {scope : Scope} {env : Env} {node : Node}
    {c : Formula .boolean} {b : Option Bool} (decides : Operand.Decides ⟨node, node.check scope⟩ c)
    (resolved : c env = .ok b) : node.holds scope env = (b == some true) := by
  obtain ⟨e, checked, typed, formula⟩ := decides
  dsimp only at checked
  unfold Node.holds
  rw [checked]
  cases e with
  | null => cases typed
  | query q => cases formula
  | scalar t f =>
    cases t with
    | boolean =>
      have same : f = c := Except.ok.inj formula
      have value : (Expr.scalar .boolean f).resolve env = .ok (Value.ofOption .boolean b) := by
        change (do return Value.ofOption .boolean (← f env)) = _
        rw [same, resolved]
        rfl
      simp only [value]
      rcases b with _ | _ | _ <;> rfl
    | _ => cases formula

theorem choose_ok {α : Type} {c : Formula .boolean} {t e : Env → Except Error α} {env : Env} {a : α}
    (h : Checking.choose c t e env = .ok a) :
    ∃ b, c env = .ok b ∧ (if b == some true then t env else e env) = .ok a := by
  unfold Checking.choose at h
  obtain ⟨b, resolved, h⟩ := bind_ok h
  refine ⟨b, resolved, ?_⟩
  rcases b with _ | _ | _ <;> exact h

/-! ### What accepted operations give -/

namespace Query

variable {input q : Query}

theorem calculate_made {items : List (String × Expr)} {roles : List (String × Role)}
    (h : input.calculate items roles = .ok q) :
    ∃ columns, putColumns roles (ownColumns input.layout) items = .ok columns ∧
      q.layout.components = columns.map Column.component ∧
      ∀ env, q.run env = (do
        let d ← input.run env
        let rows ← d.rows.mapM fun r => columns.mapM (·.cell r)
        layRows q.layout rows) := by
  unfold calculate at h
  obtain ⟨columns, put, h⟩ := bind_ok h
  obtain ⟨layout, made, h⟩ := bind_ok h
  rw [pure_ok h]
  exact ⟨columns, put, Structure.ofComponents_ok made, fun _ => rfl⟩

theorem rename_made {renames : List (String × String)} (h : input.rename renames = .ok q) :
    checkRenames input.layout renames renames = .ok () ∧
      q.layout.components = (input.layout.components.map fun c =>
        c.rename ((Assoc.find? renames c.name).getD c.name)) ∧
      ∀ env, q.run env = input.run env >>= fun d => layRows q.layout (d.rows.map Row.cells) := by
  unfold rename at h
  obtain ⟨_, checked, h⟩ := bind_ok h
  obtain ⟨layout, made, h⟩ := bind_ok h
  rw [pure_ok h]
  exact ⟨checked, Structure.ofComponents_ok made, fun _ => rfl⟩

theorem project_made {names : List String} (h : input.project names = .ok q) :
    names.mapM input.layout.column = .ok q.layout.components ∧
      ∃ places, names.mapM input.layout.place = .ok places ∧
        ∀ env, q.run env = input.run env >>= fun d =>
          layRows q.layout (d.rows.map (·.pick places)) := by
  unfold project at h
  obtain ⟨columns, found, h⟩ := bind_ok h
  obtain ⟨places, placed, h⟩ := bind_ok h
  obtain ⟨layout, made, h⟩ := bind_ok h
  rw [pure_ok h, Structure.ofComponents_ok made]
  exact ⟨found, places, placed, fun _ => rfl⟩

theorem aggregate_made {output : Structure} {aggregations : List (String × Aggregation)}
    {key : Row → List Value} (h : input.aggregate output aggregations key = .ok q) :
    q.layout = output ∧ ∀ env, q.run env = (do
      let d ← input.run env
      let groups := groupsOf (carriesColumn output aggregations) key d.rows
      let rows ← groups.mapM fun rows => output.components.mapM (groupCell aggregations rows)
      layRows output rows) := by
  unfold aggregate at h
  split at h
  · cases h
  · split at h
    · cases h
    · cases h
      exact ⟨rfl, fun _ => rfl⟩

end Query

theorem Checking.aggregate_made {input q : Query} {items : List Checking.Collection}
    {groupBy : List String} (h : Checking.aggregate input items groupBy = .ok q) :
    ∃ groups columns places, groupBy.mapM input.layout.column = .ok groups ∧
      items.mapM Checking.collection = .ok columns ∧
      Structure.ofComponents ((groups.map fun c => { c with role := .identifier }) ++
        columns.map (·.1)) = .ok q.layout ∧
      groupBy.mapM input.layout.place = .ok places ∧
      input.aggregate q.layout (columns.map fun (c, a) => (c.name, a)) (·.pick places) = .ok q := by
  unfold Checking.aggregate at h
  obtain ⟨groups, found, h⟩ := bind_ok h
  obtain ⟨columns, collected, h⟩ := bind_ok h
  obtain ⟨output, made, h⟩ := bind_ok h
  obtain ⟨places, placed, h⟩ := bind_ok h
  obtain ⟨rfl, -⟩ := Query.aggregate_made h
  exact ⟨groups, columns, places, found, collected, made, placed, h⟩

/-! ### Operations that lay out their rows -/

/-- Whatever dataset a query gives, its rows were laid out anew. -/
def Query.LaysRows (q : Query) : Prop :=
  ∀ env d, q.run env = .ok d → ∃ rows, Query.layRows q.layout rows = .ok d

namespace Query

variable {input q : Query}

theorem LaysRows.boundIn (h : q.LaysRows) (env : Env) : q.BoundIn env := by
  intro d run
  obtain ⟨rows, laid⟩ := h env d run
  obtain ⟨width, rfl⟩ := layRows_eq_ok_iff.mp laid
  refine ⟨rfl, List.forall_mem_map.mpr fun cells member => ⟨rfl, width cells member⟩⟩

theorem union_laysRows {operands : List Query} (h : union operands = .ok q) : q.LaysRows := by
  unfold union at h
  split at h
  · cases h
  · dsimp only at h
    split at h
    · cases h
    · cases h
      intro env d run
      obtain ⟨parts, -, run⟩ := bind_ok run
      exact ⟨_, run⟩

theorem join_laysRows {kind : JoinKind} {operands : List (String × Query)} {keys : List Component}
    (h : join kind operands keys = .ok q) : q.LaysRows := by
  unfold join at h
  obtain ⟨plan, -, h⟩ := bind_ok h
  rw [pure_ok h]
  intro env d run
  obtain ⟨inputs, -, run⟩ := bind_ok run
  exact ⟨_, run⟩

theorem ownColumns_components (s : Structure) :
    (Query.ownColumns s).map Query.Column.component = s.components := by
  apply List.ext_getElem?
  intro i
  simp only [Query.ownColumns, List.getElem?_map, List.getElem?_mapIdx]
  cases s.components[i]? <;> rfl

theorem calculate_laysRows {items : List (String × Expr)} {roles : List (String × Role)}
    (h : input.calculate items roles = .ok q) : q.LaysRows := by
  obtain ⟨columns, -, -, runs⟩ := calculate_made h
  intro env d run
  rw [runs] at run
  obtain ⟨_, -, run⟩ := bind_ok run
  obtain ⟨rows, -, run⟩ := bind_ok run
  exact ⟨_, run⟩

theorem rename_laysRows {renames : List (String × String)} (h : input.rename renames = .ok q) :
    q.LaysRows := by
  obtain ⟨-, -, runs⟩ := rename_made h
  intro env d run
  rw [runs] at run
  obtain ⟨_, -, run⟩ := bind_ok run
  exact ⟨_, run⟩

theorem project_laysRows {names : List String} (h : input.project names = .ok q) : q.LaysRows := by
  obtain ⟨-, places, -, runs⟩ := project_made h
  intro env d run
  rw [runs] at run
  obtain ⟨_, -, run⟩ := bind_ok run
  exact ⟨_, run⟩

theorem aggregate_laysRows {output : Structure} {aggregations : List (String × Aggregation)}
    {key : Row → List Value} (h : input.aggregate output aggregations key = .ok q) :
    q.LaysRows := by
  obtain ⟨rfl, runs⟩ := aggregate_made h
  intro env d run
  rw [runs] at run
  obtain ⟨_, -, run⟩ := bind_ok run
  obtain ⟨rows, -, run⟩ := bind_ok run
  exact ⟨_, run⟩

end Query

theorem Clause.check_laysRows [PatternLanguage] {input q : Query} {clause : Clause}
    (h : clause.check input = .ok q) (other : ∀ predicate, clause ≠ .filter predicate) :
    q.LaysRows := by
  cases clause with
  | filter predicate => exact absurd rfl (other predicate)
  | calculate items =>
    change Checking.calculate _ _ = _ at h
    unfold Checking.calculate at h
    obtain ⟨expressions, -, h⟩ := bind_ok h
    exact Query.calculate_laysRows h
  | rename items =>
    change Checking.rename _ _ = _ at h
    unfold Checking.rename at h
    split at h
    · cases h
    · exact Query.rename_laysRows h
  | keep names => exact Query.project_laysRows h
  | drop names =>
    change Checking.drop _ _ = _ at h
    unfold Checking.drop at h
    split at h
    · cases h
    · exact Query.project_laysRows h
  | aggregate items groupBy =>
    obtain ⟨groups, columns, places, -, -, -, -, made⟩ := Checking.aggregate_made h
    exact Query.aggregate_laysRows made

theorem unionCall_laysRows {args : List Operand} {q : Query}
    (h : Checking.unionCall args = .ok (.query q)) : q.LaysRows := by
  unfold Checking.unionCall at h
  split at h
  · cases h
  · obtain ⟨first, -, h⟩ := bind_ok h
    obtain ⟨others, -, h⟩ := bind_ok h
    obtain ⟨_, -, h⟩ := bind_ok h
    obtain ⟨u, made, h⟩ := bind_ok h
    cases pure_ok h
    exact Query.union_laysRows made

theorem joinCall_laysRows {kind : JoinKind} {operands : List (Option String × Operand)}
    {keys : List String} {q : Query} (h : Checking.join kind operands keys = .ok (.query q)) :
    q.LaysRows := by
  unfold Checking.join at h
  split at h
  · cases h
  · obtain ⟨datasets, -, h⟩ := bind_ok h
    obtain ⟨components, -, h⟩ := bind_ok h
    obtain ⟨joined, made, h⟩ := bind_ok h
    cases pure_ok h
    exact Query.join_laysRows made

/-! ### Variables and filters -/

theorem variableNamed_query {scope : Scope} {name : String} {q : Query}
    (h : Checking.variableNamed scope name = .ok (.query q)) :
    scope name = some (.dataset q.layout) ∧ q.run = Checking.boundDataset name q.layout := by
  unfold Checking.variableNamed at h
  split at h
  · cases h
  · cases h
  · exact ((Checking.Single.ofValues _ _).not_query _ h).elim
  · rename_i declared
    cases h
    exact ⟨declared, rfl⟩

theorem boundDataset_laidOut {name : String} {declared : Structure} {env : Env} {d : Dataset}
    (uniform : env.Uniform) (h : Checking.boundDataset name declared env = .ok d) :
    d.LaidOutBy declared := by
  unfold Checking.boundDataset at h
  split at h
  · rename_i bound found
    exact conform_layout (uniform name bound found) h
  · cases h
  · cases h

theorem keepRows_sublist {predicate : Formula .boolean} {rows kept : List Row}
    (h : Query.keepRows predicate rows = .ok kept) : kept.Sublist rows := by
  induction rows generalizing kept with
  | nil =>
    cases h
    exact List.Sublist.refl _
  | cons r rest ih =>
    unfold Query.keepRows at h
    obtain ⟨keep, -, h⟩ := bind_ok h
    obtain ⟨later, others, h⟩ := bind_ok h
    rw [pure_ok h]
    split
    · exact (ih others).cons_cons r
    · exact (ih others).cons r

theorem clause_query [PatternLanguage] {scope : Scope} {dataset : Node} {clause : Clause} {q : Query}
    (h : (Form.clause dataset clause).check scope = .ok (.query q)) :
    ∃ input, dataset.check scope = .ok (.query input) ∧ clause.check input = .ok q := by
  unfold Form.check at h
  obtain ⟨input, inputChecked, h⟩ := bind_ok h
  obtain ⟨q', clauseChecked, h⟩ := bind_ok h
  cases pure_ok h
  exact ⟨input, query_operand inputChecked, clauseChecked⟩

theorem filter_query [PatternLanguage] {input q : Query} {predicate : Node}
    (h : (Clause.filter predicate).check input = .ok q) :
    ∃ f, Operand.formula .boolean ⟨predicate, predicate.check input.layout.scope⟩ = .ok f ∧
      q = input.filter f := by
  change Checking.filter _ _ = _ at h
  unfold Checking.filter at h
  obtain ⟨f, formula, h⟩ := bind_ok h
  exact ⟨f, formula, pure_ok h⟩

/-! ### Structures found by checking -/

section

variable [PatternLanguage] {scope : Scope} {env : Env}

theorem layout?_of_check {node : Node} {q : Query} (h : node.check scope = .ok (.query q)) :
    node.layout? scope = some q.layout := by
  unfold Node.layout?
  rw [h]

theorem check_of_layout? {node : Node} {s : Structure} (h : node.layout? scope = some s) :
    ∃ q, node.check scope = .ok (.query q) := by
  unfold Node.layout? at h
  split at h
  · rename_i q checked
    exact ⟨q, checked⟩
  · cases h

theorem layout_eq_of_check {node : Node} {q : Query} {s : Structure}
    (h : node.check scope = .ok (.query q)) (known : node.layout? scope = some s) : q.layout = s := by
  rw [layout?_of_check h] at known
  exact Option.some.inj known

theorem check_unique {node : Node} {q q' : Query} (h : node.check scope = .ok (.query q))
    (h' : node.check scope = .ok (.query q')) : q = q' :=
  Expr.query.inj (Except.ok.inj (h.symm.trans h'))

/-! ### How datasets come about -/

/-- How a node comes to resolve to a dataset: from the one that is bound to a name, from rows that are laid
out anew, or from the one that another node resolves to. The structure is the one that checking finds. -/
inductive Node.Resolves (scope : Scope) (env : Env) : Node → Structure → Dataset → Prop
  | bound {name : String} {p : Option Position} {s : Structure} {d : Dataset}
    (own : Node.layout? scope ⟨.name name, p⟩ = some s) (declared : scope name = some (.dataset s))
    (held : Checking.boundDataset name s env = .ok d) : Node.Resolves scope env ⟨.name name, p⟩ s d
  | laid {node : Node} {s : Structure} {rows : List (List Value)} {d : Dataset}
    (own : node.layout? scope = some s) (carrier : node.carrier scope env = node)
    (source : node.source scope env = node) (laid : Query.layRows s rows = .ok d) :
    Node.Resolves scope env node s d
  | parenthesis {inner : Node} {p : Option Position} {s : Structure} {d : Dataset}
    (h : Node.Resolves scope env inner s d) : Node.Resolves scope env ⟨.parenthesis inner, p⟩ s d
  | first {condition thenBranch elseBranch : Node} {p : Option Position} {s t : Structure} {d : Dataset}
    (truth : condition.holds scope env = true) (thenLayout : thenBranch.layout? scope = some s)
    (elseLayout : elseBranch.layout? scope = some t) (h : Node.Resolves scope env thenBranch s d) :
    Node.Resolves scope env ⟨.conditional condition thenBranch elseBranch, p⟩ s d
  | second {condition thenBranch elseBranch : Node} {p : Option Position} {s t : Structure} {d : Dataset}
    (truth : condition.holds scope env = false) (thenLayout : thenBranch.layout? scope = some s)
    (elseLayout : elseBranch.layout? scope = some t) (compatible : s.isCompatibleWith t)
    (h : Node.Resolves scope env elseBranch t d) :
    Node.Resolves scope env ⟨.conditional condition thenBranch elseBranch, p⟩ s d
  | filtered {dataset predicate : Node} {p : Option Position} {s : Structure} {given : Dataset}
    {f : Formula .boolean} {kept : List Row}
    (own : Node.layout? scope ⟨.clause dataset (.filter predicate), p⟩ = some s)
    (keeps : Query.keepRows f given.rows = .ok kept) (h : Node.Resolves scope env dataset s given) :
    Node.Resolves scope env ⟨.clause dataset (.filter predicate), p⟩ s ⟨s, kept⟩

theorem run_resolves : (node : Node) → ∀ {q : Query} {d : Dataset},
    node.check scope = .ok (.query q) → q.run env = .ok d → node.Resolves scope env q.layout d
  | ⟨form, p⟩, q, d, checked, run => by
    have own := layout?_of_check checked
    obtain ⟨inner, formChecked, rfl⟩ := check_query checked
    have innerRun : inner.run env = .ok d := locate_eq_ok_iff.mp run
    -- unions, joins and all clauses but filters give rows of their own, whatever their parts give
    have anew (lays : inner.LaysRows) (carrier : Node.carrier scope env ⟨form, p⟩ = ⟨form, p⟩)
        (source : Node.source scope env ⟨form, p⟩ = ⟨form, p⟩) :
        Node.Resolves scope env ⟨form, p⟩ inner.layout d := by
      obtain ⟨rows, laid⟩ := lays env d innerRun
      exact .laid own carrier source laid
    match form with
    | .literal l => exact ((Checking.literal_single l).not_query _ formChecked).elim
    | .binary op left right => exact ((Checking.binary_single op _ _).not_query _ formChecked).elim
    | .unary op operand => exact ((Checking.unary_single op _).not_query _ formChecked).elim
    | .membership negated operand list =>
      exact ((Checking.membership_single negated _ list).not_query _ formChecked).elim
    | .name name =>
      obtain ⟨declared, runs⟩ := variableNamed_query formChecked
      rw [runs] at innerRun
      exact .bound own declared innerRun
    | .call family function args =>
      exact anew (unionCall_laysRows (Checking.call_query formChecked)) rfl rfl
    | .join kind operands keys => exact anew (joinCall_laysRows formChecked) rfl rfl
    | .parenthesis node =>
      have inside := run_resolves node formChecked innerRun
      exact .parenthesis inside
    | .conditional condition thenBranch elseBranch =>
      obtain ⟨c, t, e, decides, thenChecked, elseChecked, compatible, rfl⟩ :=
        conditional_query formChecked
      obtain ⟨b, resolved, chosen⟩ := choose_ok innerRun
      have value := holds_of_decides decides resolved
      have thenLayout := layout?_of_check thenChecked
      have elseLayout := layout?_of_check elseChecked
      cases truth : b == some true with
      | true =>
        rw [truth] at value chosen
        have branch := run_resolves thenBranch thenChecked chosen
        exact .first value thenLayout elseLayout branch
      | false =>
        rw [truth] at value chosen
        have branch := run_resolves elseBranch elseChecked chosen
        exact .second value thenLayout elseLayout compatible branch
    | .clause dataset clause =>
      obtain ⟨input, inputChecked, clauseChecked⟩ := clause_query formChecked
      cases clause with
      | filter predicate =>
        obtain ⟨f, -, rfl⟩ := filter_query clauseChecked
        obtain ⟨given, inputRun, filtered⟩ := bind_ok innerRun
        obtain ⟨kept, keeps, filtered⟩ := bind_ok filtered
        obtain rfl := pure_ok filtered
        have inside := run_resolves dataset inputChecked inputRun
        exact .filtered own keeps inside
      | _ => exact anew (Clause.check_laysRows clauseChecked nofun) rfl rfl

/-! ### Carriers and sources -/

/-- A node that lays out its rows is its own carrier and source. -/
theorem layouts_of_laidOut {node : Node} {s : Structure} {d : Dataset}
    (own : node.layout? scope = some s) (laid : d.LaidOutBy s)
    (carrier : node.carrier scope env = node) (source : node.source scope env = node) :
    (node.carrier scope env).layout? scope = some d.layout ∧
      ∀ r ∈ d.rows, (node.source scope env).layout? scope = some r.layout := by
  rw [carrier, source, own, laid.1]
  exact ⟨rfl, fun r member => by rw [laid.2 r member]⟩

/-- A resolved dataset has the column order of its carrier, and its rows that of their source. -/
theorem Node.Resolves.layouts (uniform : env.Uniform) {node : Node} {s : Structure} {d : Dataset}
    (h : node.Resolves scope env s d) :
    (node.carrier scope env).layout? scope = some d.layout ∧
      ∀ r ∈ d.rows, (node.source scope env).layout? scope = some r.layout := by
  induction h with
  | bound own _ held => exact layouts_of_laidOut own (boundDataset_laidOut uniform held) rfl rfl
  | laid own carrier source laid => exact layouts_of_laidOut own (layRows_laidOut laid) carrier source
  | parenthesis _ ih => exact ih
  | first truth _ _ _ ih =>
    unfold Node.carrier Node.source
    simp only [truth]
    exact ih
  | second truth _ _ _ _ ih =>
    unfold Node.carrier Node.source
    simp only [truth]
    exact ih
  | filtered own keeps _ ih =>
    exact ⟨own, fun r member => ih.2 r ((keepRows_sublist keeps).subset member)⟩

/-- Where conditionals keep the order, carrier and source have the structure of the node. -/
theorem layouts_of_keepsOrder (env : Env) : (node : Node) → ∀ {q : Query},
    node.check scope = .ok (.query q) → node.KeepsOrder scope →
      (node.carrier scope env).layout? scope = some q.layout ∧
        (node.source scope env).layout? scope = some q.layout
  | ⟨form, p⟩, q, checked, keeps => by
    have own := layout?_of_check checked
    obtain ⟨inner, formChecked, rfl⟩ := check_query checked
    match form with
    | .parenthesis node =>
      have inside := layouts_of_keepsOrder env node formChecked keeps
      exact inside
    | .conditional condition thenBranch elseBranch =>
      obtain ⟨c, t, e, -, thenChecked, elseChecked, -, rfl⟩ := conditional_query formChecked
      obtain ⟨same, thenKeeps, elseKeeps⟩ := keeps
      have layouts : t.layout = e.layout := by
        rw [layout?_of_check thenChecked, layout?_of_check elseChecked] at same
        exact Option.some.inj same
      have first := layouts_of_keepsOrder env thenBranch thenChecked thenKeeps
      have second := layouts_of_keepsOrder env elseBranch elseChecked elseKeeps
      rw [← layouts] at second
      unfold Node.carrier Node.source
      split
      · exact first
      · exact second
    | .clause dataset clause =>
      obtain ⟨input, inputChecked, clauseChecked⟩ := clause_query formChecked
      cases clause with
      | filter predicate =>
        obtain ⟨f, -, rfl⟩ := filter_query clauseChecked
        exact ⟨own, (layouts_of_keepsOrder env dataset inputChecked keeps).2⟩
      | _ => exact ⟨own, own⟩
    | .name _ | .literal _ | .binary .. | .unary .. | .membership .. | .call .. | .join .. =>
      exact ⟨own, own⟩

/-- A resolved dataset and its rows are in the order that checking finds exactly if the node that
hands on the dataset, and unless there are no rows the one that hands on the rows, have that order.
They do where the branches of conditionals agree in it. -/
theorem laidOutBy_iff {node : Node} {q : Query} {d : Dataset} (uniform : env.Uniform)
    (checked : node.check scope = .ok (.query q)) (run : q.run env = .ok d) :
    (d.LaidOutBy q.layout ↔
      (node.carrier scope env).layout? scope = some q.layout ∧
        (d.rows ≠ [] → (node.source scope env).layout? scope = some q.layout)) ∧
      (node.KeepsOrder scope → d.LaidOutBy q.layout) := by
  obtain ⟨carrier, source⟩ := (run_resolves node checked run).layouts uniform
  have exact_order : d.LaidOutBy q.layout ↔
      (node.carrier scope env).layout? scope = some q.layout ∧
        (d.rows ≠ [] → (node.source scope env).layout? scope = some q.layout) := by
    rw [carrier]
    constructor
    · rintro ⟨own, rows⟩
      refine ⟨by rw [own], fun some_row => ?_⟩
      obtain ⟨r, member⟩ := List.exists_mem_of_ne_nil _ some_row
      rw [source r member, rows r member]
    · rintro ⟨own, rows⟩
      refine ⟨Option.some.inj own, fun r member => ?_⟩
      have order := rows (List.ne_nil_of_mem member)
      rw [source r member] at order
      exact Option.some.inj order
  refine ⟨exact_order, fun keeps => ?_⟩
  obtain ⟨own, rows⟩ := layouts_of_keepsOrder env node checked keeps
  exact exact_order.mpr ⟨own, fun _ => rows⟩

end

/-! ### Branches in two orders -/

namespace Branches

/-- Two datasets, the first without rows. -/
def bindings (first second : Structure) (rows : List Row) : Bindings :=
  [("a", .dataset ⟨first, []⟩), ("b", .dataset ⟨second, rows⟩)]

def literalFalse : Node := ⟨.literal (.boolean false), none⟩

def first : Node := ⟨.name "a", none⟩

def second : Node := ⟨.name "b", none⟩

/-- The conditional that chooses the second of two datasets. -/
def chooseSecond : Node := ⟨.conditional literalFalse first second, none⟩

theorem uniform {s t : Structure} {rows : List Row} (laid : ∀ r ∈ rows, r.layout = t) :
    (bindings s t rows).env.Uniform := by
  intro name d found
  simp only [Bindings.env, bindings, Assoc.find?_cons, Assoc.find?_nil] at found
  split at found
  · cases found
    exact nofun
  · split at found
    · cases found
      exact laid
    · cases found

def pair : Structure := ⟨[⟨"id", .integer, .identifier⟩, ⟨"x", .string, .measure⟩], by decide⟩

def swapped : Structure := ⟨[⟨"x", .string, .measure⟩, ⟨"id", .integer, .identifier⟩], by decide⟩

def swappedRow : Row := ⟨swapped, [.string "one", .integer 1]⟩

def swappedBindings : Bindings := bindings pair swapped [swappedRow]

end Branches

open Branches in
theorem chosen_branch_not_laidOut :
    swappedBindings.env.Uniform ∧
      ∃ q d, chooseSecond.check swappedBindings.scope = .ok (.query q) ∧
        q.run swappedBindings.env = .ok d ∧ ¬ d.LaidOutBy q.layout := by
  have laid : swappedBindings.env.Uniform := uniform (by simp [swappedRow])
  refine ⟨laid, _, ⟨swapped, [swappedRow]⟩, rfl, rfl, fun ordered => ?_⟩
  have exact_order := @laidOutBy_iff _ swappedBindings.scope _ chooseSecond _ _ laid rfl rfl
  have names := congrArg (Option.map Structure.names) (exact_order.1.mp ordered).1
  revert names
  decide

end DatasetScript
