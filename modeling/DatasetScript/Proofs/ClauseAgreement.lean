import DatasetScript.Proofs.DatasetAgreement
/-!
# Agreement of clauses

A clause on agreeing datasets agrees with one whose expressions agree with its own. Expressions in
clauses are resolved against the cells of a row, so they must agree wherever both are given the same
cells. There is one statement for each clause, with `calculate_agree` and `aggregate_agree` for those
with several expressions.
-/

namespace DatasetScript

variable {like : Likeness} {pair : Env → Env → Prop} {q r : Query}

/-- Entries of one name whose values are related. -/
def Entry.Rel {α β : Type} (related : α → β → Prop) (a : String × α) (b : String × β) : Prop :=
  a.1 = b.1 ∧ related a.2 b.2

theorem names_eq {α β : Type} {related : α → β → Prop} {entries : List (String × α)}
    {entries' : List (String × β)} (h : List.Forall₂ (Entry.Rel related) entries entries') :
    Assoc.names entries = Assoc.names entries' := by
  induction h with
  | nil => rfl
  | cons first _ ih => exact congrArg₂ List.cons first.1 ih

theorem find?_rel {α β : Type} {related : α → β → Prop} {entries : List (String × α)}
    {entries' : List (String × β)} (h : List.Forall₂ (Entry.Rel related) entries entries')
    (name : String) :
    (Assoc.find? entries name = none ∧ Assoc.find? entries' name = none) ∨
      ∃ a b, Assoc.find? entries name = some a ∧ Assoc.find? entries' name = some b ∧
        related a b := by
  induction h with
  | nil => exact .inl ⟨rfl, rfl⟩
  | @cons a b _ _ first _ ih =>
    obtain ⟨own, value⟩ := a
    obtain ⟨own', value'⟩ := b
    obtain ⟨rfl, values⟩ := first
    rw [Assoc.find?_cons, Assoc.find?_cons]
    split
    · exact .inr ⟨value, value', rfl, rfl, values⟩
    · exact ih

/-! ### Calculating -/

variable (like) in
structure Checking.Calculation.Agree (c c' : Checking.Calculation) : Prop where
  name : c.name = c'.name
  role : c.role = c'.role
  operand : c.operand.Agree like Eq c'.operand

theorem calculation_agree (layout : Structure) {c c' : Checking.Calculation} (h : c.Agree like c') :
    ChecksAgree like Eq (Checking.calculation layout c) (Checking.calculation layout c') := by
  refine h.operand.expr.bind fun e e' agree => ?_
  rw [← agree.isNull_eq, ← h.name]
  split
  · split
    · exact typedNull_agree _
    · refine .refused h.operand.nodes rfl fun strict => ?_
      simp only [Operand.text, h.operand.nodes.texts strict]
  · exact agree

theorem calculations_agree (layout : Structure) {items items' : List Checking.Calculation}
    (h : List.Forall₂ (Checking.Calculation.Agree like) items items') (taken : List String) :
    Agree like (List.Forall₂ (Entry.Rel (Expr.Agree like Eq)))
      (Checking.calculations layout taken items) (Checking.calculations layout taken items') := by
  induction h generalizing taken with
  | nil => exact List.Forall₂.nil
  | cons first _ ih =>
    unfold Checking.calculations
    rw [← first.name]
    refine (calculation_agree layout first).bind fun e e' agree => ?_
    split
    · exact .same_error _ rfl
    · exact (ih _).bind fun _ _ others => List.Forall₂.cons ⟨rfl, agree⟩ others

section

variable (like)

inductive Query.Source.Agree : Query.Source → Query.Source → Prop
  | place (i : Nat) : Query.Source.Agree (.place i) (.place i)
  | computed {e e' : Expr} (h : e.Agree like Eq e') :
    Query.Source.Agree (.computed e) (.computed e')

structure Query.Column.Agree (c c' : Query.Column) : Prop where
  component : c.component = c'.component
  source : c.source.Agree like c'.source

end

theorem cell_agree {c c' : Query.Column} (h : c.Agree like c') (row : Row) :
    Agree like Eq (c.cell row) (c'.cell row) := by
  obtain ⟨component, source⟩ := c
  obtain ⟨component', source'⟩ := c'
  obtain ⟨rfl, sources⟩ := h
  cases sources with
  | place i => exact rfl
  | computed agree => exact (agree.resolve rfl).bind_same fun v => .unplaced (.cast _ v)

theorem ownColumns_agree (layout : Structure) :
    List.Forall₂ (Query.Column.Agree like) (Query.ownColumns layout) (Query.ownColumns layout) := by
  refine List.forall₂_same.mpr fun column member => ⟨rfl, ?_⟩
  obtain ⟨i, bound, rfl⟩ := List.mem_mapIdx.mp member
  exact .place i

theorem putColumn_agree (roles : List (String × Role)) {columns columns' : List Query.Column}
    (h : List.Forall₂ (Query.Column.Agree like) columns columns') (name : String) (type : DataType)
    {e e' : Expr} (agree : e.Agree like Eq e') :
    List.Forall₂ (Query.Column.Agree like) (Query.putColumn roles columns name type e)
      (Query.putColumn roles columns' name type e') := by
  induction h with
  | nil => exact .cons ⟨rfl, .computed agree⟩ .nil
  | cons first others ih =>
    unfold Query.putColumn
    rw [← first.component]
    split
    · exact .cons ⟨rfl, .computed agree⟩ others
    · exact .cons first ih

theorem putColumns_agree (roles : List (String × Role)) {items items' : List (String × Expr)}
    (h : List.Forall₂ (Entry.Rel (Expr.Agree like Eq)) items items')
    {columns columns' : List Query.Column}
    (own : List.Forall₂ (Query.Column.Agree like) columns columns') :
    Agree like (List.Forall₂ (Query.Column.Agree like)) (Query.putColumns roles columns items)
      (Query.putColumns roles columns' items') := by
  induction h generalizing columns columns' with
  | nil => exact own
  | @cons a b _ _ first _ ih =>
    obtain ⟨name, e⟩ := a
    obtain ⟨name', e'⟩ := b
    obtain ⟨rfl, agree⟩ := first
    unfold Query.putColumns
    dsimp only at agree ⊢
    rw [← agree.type_eq]
    split
    · exact ih (putColumn_agree roles own name _ agree)
    · exact .same_error _ rfl

theorem components_eq {columns columns' : List Query.Column}
    (h : List.Forall₂ (Query.Column.Agree like) columns columns') :
    columns.map Query.Column.component = columns'.map Query.Column.component := by
  induction h with
  | nil => rfl
  | cons first _ ih => exact congrArg₂ List.cons first.component ih

theorem query_calculate_agree (h : q.Agree like pair r) (roles : List (String × Role))
    {items items' : List (String × Expr)}
    (expressions : List.Forall₂ (Entry.Rel (Expr.Agree like Eq)) items items') :
    Agree like (Query.Agree like pair) (q.calculate items roles) (r.calculate items' roles) := by
  unfold Query.calculate
  rw [← h.1]
  refine (putColumns_agree roles expressions (ownColumns_agree q.layout)).bind
    fun columns columns' agree => ?_
  rw [← components_eq agree]
  refine (Agree.unplaced (.ofComponents _)).bind_same fun layout => ⟨rfl, fun env env' paired => ?_⟩
  refine (h.2 env env' paired).bind_same fun d => ?_
  have cells (row : Row) := Agree.mapM_eq agree fun _ _ column => cell_agree column row
  exact (Agree.mapM_same d.rows cells).bind_same fun rows => .unplaced (.ofCells layout rows)

theorem roles_eq {items items' : List Checking.Calculation}
    (h : List.Forall₂ (Checking.Calculation.Agree like) items items') :
    (items.filterMap fun c => c.role.map (c.name, ·)) =
      items'.filterMap fun c => c.role.map (c.name, ·) := by
  induction h with
  | nil => rfl
  | cons first _ ih => rw [List.filterMap_cons, List.filterMap_cons, first.name, first.role, ih]

theorem calculate_agree (h : q.Agree like pair r) {items items' : List Checking.Calculation}
    (all : List.Forall₂ (Checking.Calculation.Agree like) items items') :
    Agree like (Query.Agree like pair) (Checking.calculate q items) (Checking.calculate r items') := by
  unfold Checking.calculate
  rw [← h.1, ← roles_eq all]
  exact (calculations_agree q.layout all []).bind fun _ _ expressions =>
    query_calculate_agree h _ expressions

/-! ### Filtering, renaming and projecting -/

theorem keepRows_agree {f g : Formula .boolean} (h : f.Agree like Eq g) (rows : List Row) :
    Agree like Eq (Query.keepRows f rows) (Query.keepRows g rows) := by
  induction rows with
  | nil => exact rfl
  | cons row rest ih =>
    exact (h row.env row.env rfl).bind_same fun keep => ih.bind_same fun kept => rfl

theorem filter_agree (h : q.Agree like pair r) {predicate predicate' : Operand}
    (agree : predicate.Agree like Eq predicate') :
    Agree like (Query.Agree like pair) (Checking.filter q predicate)
      (Checking.filter r predicate') := by
  refine (formula_agree .boolean agree).bind fun f g formulas => ?_
  unfold Query.filter
  rw [← h.1]
  refine ⟨rfl, fun env env' paired => (h.2 env env' paired).bind_same fun d => ?_⟩
  exact (keepRows_agree formulas d.rows).bind_same fun rows => rfl

theorem rename_agree (h : q.Agree like pair r) (items : List RenameItem) :
    Agree like (Query.Agree like pair) (Checking.rename q items) (Checking.rename r items) := by
  unfold Checking.rename
  split
  · exact .same_error _ rfl
  · unfold Query.rename
    rw [← h.1]
    refine (Agree.unplaced (.checkRenames _ _ _)).bind_same fun _ => ?_
    refine (Agree.unplaced (.ofComponents _)).bind_same fun layout => ⟨rfl, fun env env' paired => ?_⟩
    exact (h.2 env env' paired).bind_same fun d => .unplaced (.ofCells layout _)

theorem project_agree (h : q.Agree like pair r) (names : List String) :
    Agree like (Query.Agree like pair) (q.project names) (r.project names) := by
  unfold Query.project
  rw [← h.1]
  refine (Agree.unplaced (.mapM (.column _) names)).bind_same fun columns => ?_
  refine (Agree.unplaced (.mapM (.place _) names)).bind_same fun places => ?_
  refine (Agree.unplaced (.ofComponents _)).bind_same fun layout => ⟨rfl, fun env env' paired => ?_⟩
  exact (h.2 env env' paired).bind_same fun d => .unplaced (.ofCells layout _)

theorem drop_agree (h : q.Agree like pair r) (names : List String) :
    Agree like (Query.Agree like pair) (Checking.drop q names) (Checking.drop r names) := by
  unfold Checking.drop
  rw [← h.1]
  split
  · exact .same_error _ rfl
  · exact project_agree h _

/-! ### Aggregating -/

section

variable (like)

structure Aggregation.Agree (a a' : Aggregation) : Prop where
  function : a.function = a'.function
  operand : Option.Rel (Expr.Agree like Eq) a.operand a'.operand
  type : a.type = a'.type

structure Checking.Collection.Agree (c c' : Checking.Collection) : Prop where
  name : c.name = c'.name
  role : c.role = c'.role
  function : c.function = c'.function
  operand : Option.Rel (Operand.Agree like Eq) c.operand c'.operand

end

theorem ofOperand_agree (function : AggregateFunction) {operand operand' : Option Expr}
    (h : Option.Rel (Expr.Agree like Eq) operand operand') :
    Agree like (Aggregation.Agree like) (Aggregation.ofOperand function operand)
      (Aggregation.ofOperand function operand') := by
  have types : operand.bind Expr.type? = operand'.bind Expr.type? := by
    cases h with
    | none => rfl
    | some agree => exact agree.type_eq
  have given : operand.isNone = operand'.isNone := by cases h <;> rfl
  have made (t : DataType) : Agree like (Aggregation.Agree like)
      (.ok ⟨function, operand, t⟩) (.ok ⟨function, operand', t⟩) := ⟨rfl, h, rfl⟩
  unfold Aggregation.ofOperand
  dsimp only
  rw [← types, ← given]
  split
  · exact made _
  · split
    · exact .same_error _ rfl
    · split
      · exact made _
      · exact made _
      · split
        · exact made _
        · exact .same_error _ rfl
      · exact made _
      · split
        · exact made _
        · exact .same_error _ rfl
      · exact made _
      · exact made _
      · split
        · exact .same_error _ rfl
        · exact made _
      · split
        · exact .same_error _ rfl
        · exact made _

theorem collection_agree {c c' : Checking.Collection} (h : c.Agree like c') :
    Agree like (fun a b => a.1 = b.1 ∧ a.2.Agree like b.2) (Checking.collection c)
      (Checking.collection c') := by
  obtain ⟨name, role, function, operand⟩ := c
  obtain ⟨name', role', function', operand'⟩ := c'
  obtain ⟨rfl, rfl, rfl, operands⟩ := h
  have finish {a a' : Aggregation} (agree : a.Agree like a') :
      (⟨name, a.type, role.getD .measure⟩ : Component) = ⟨name, a'.type, role.getD .measure⟩ ∧
        a.Agree like a' := ⟨by rw [agree.type], agree⟩
  cases operands with
  | none =>
    unfold Checking.collection
    change Agree like _ (DatasetScript.locate none _ >>= _) (DatasetScript.locate none _ >>= _)
    rw [locate_none]
    exact (ofOperand_agree function .none).bind fun _ _ agree => finish agree
  | @some o o' agree =>
    unfold Checking.collection
    have operand : Agree like (Option.Rel (Expr.Agree like Eq)) ((some o).mapM Operand.expr)
        ((some o').mapM Operand.expr) := agree.expr.bind fun _ _ inner => Option.Rel.some inner
    refine operand.bind fun e e' inner => ?_
    exact ((ofOperand_agree function inner).locate agree.nodes.positions).bind
      fun _ _ agree => finish agree

theorem collect_agree {a a' : Aggregation} (h : a.Agree like a') (rows : List Row) :
    Agree like Eq (a.collect rows) (a'.collect rows) := by
  obtain ⟨function, operand, type⟩ := a
  obtain ⟨function', operand', type'⟩ := a'
  obtain ⟨rfl, operands, rfl⟩ := h
  have values (row : Row) : Agree like Eq (Aggregation.valueAt ⟨function, operand, type⟩ row)
      (Aggregation.valueAt ⟨function, operand', type⟩ row) := by
    cases operands with
    | none => exact rfl
    | some agree => exact agree.resolve rfl
  exact (Agree.mapM_same rows values).bind_same fun _ => rfl

section

variable {aggregations aggregations' : List (String × Aggregation)}
  (all : List.Forall₂ (Entry.Rel (Aggregation.Agree like)) aggregations aggregations')

include all

theorem groupCell_agree (rows : List Row) (c : Component) :
    Agree like Eq (Query.groupCell aggregations rows c) (Query.groupCell aggregations' rows c) := by
  unfold Query.groupCell
  obtain ⟨missing, missing'⟩ | ⟨a, a', found, found', agree⟩ := find?_rel all c.name
  · rw [missing, missing']
    exact .unplaced (.cast _ _)
  · rw [found, found']
    exact (collect_agree agree rows).bind_same fun v => .unplaced (.cast _ v)

theorem query_aggregate_agree (h : q.Agree like pair r) (output : Structure)
    (key : Row → List Value) :
    Agree like (Query.Agree like pair) (q.aggregate output aggregations key)
      (r.aggregate output aggregations' key) := by
  have left (name : String) :
      (Assoc.find? aggregations name).isNone = (Assoc.find? aggregations' name).isNone := by
    obtain ⟨missing, missing'⟩ | ⟨a, a', found, found', -⟩ := find?_rel all name
    · rw [missing, missing']
    · rw [found, found']
      rfl
  unfold Query.aggregate Query.strayColumn? Query.carriesColumn
  simp only [← h.1, ← names_eq all, ← left]
  split
  · exact .same_error _ rfl
  · split
    · exact .same_error _ rfl
    · refine ⟨rfl, fun env env' paired => (h.2 env env' paired).bind_same fun d => ?_⟩
      have cells (rows : List Row) :=
        Agree.mapM_same output.components fun c => groupCell_agree all rows c
      exact (Agree.mapM_same _ cells).bind_same fun rows => .unplaced (.ofCells output rows)

end

theorem aggregate_agree (h : q.Agree like pair r) {items items' : List Checking.Collection}
    (all : List.Forall₂ (Checking.Collection.Agree like) items items') (groupBy : List String) :
    Agree like (Query.Agree like pair) (Checking.aggregate q items groupBy)
      (Checking.aggregate r items' groupBy) := by
  unfold Checking.aggregate
  rw [← h.1]
  refine (Agree.unplaced (.mapM (.column _) groupBy)).bind_same fun groups => ?_
  refine (Agree.mapM all fun _ _ => collection_agree).bind fun columns columns' agree => ?_
  have components : columns.map (·.1) = columns'.map (·.1) := by
    clear h
    induction agree with
    | nil => rfl
    | cons first _ ih => exact congrArg₂ List.cons first.1 ih
  have aggregations : List.Forall₂ (Entry.Rel (Aggregation.Agree like))
      (columns.map fun column => (column.1.name, column.2))
      (columns'.map fun column => (column.1.name, column.2)) := by
    rw [List.forall₂_map_left_iff, List.forall₂_map_right_iff]
    exact agree.imp fun _ _ column => ⟨congrArg Component.name column.1, column.2⟩
  rw [← components]
  refine (Agree.unplaced (.ofComponents _)).bind_same fun output => ?_
  refine (Agree.unplaced (.mapM (.place _) groupBy)).bind_same fun places => ?_
  exact query_aggregate_agree aggregations h output _

end DatasetScript
