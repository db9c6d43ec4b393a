import DatasetScript.Proofs.DatasetSoundness
import DatasetScript.Proofs.Layout
/-!
# Calculated columns

Calculated columns are put in place one after the other, each in the place of the column of its name
or at the end. As no name is calculated twice and every expression is about the rows of the input,
this amounts to replacing all of them at once. Main statements: `putColumns_ok_iff` for the columns,
and `calculate_simultaneous` for the clause.
-/

namespace DatasetScript

/-! ### Putting columns in place -/

def columnNames (columns : List Query.Column) : List String :=
  (columns.map Query.Column.component).map Component.name

/-- The column that an expression makes, in the given role unless its name has one. -/
def calculatedColumn (roles : List (String × Role)) (role : Role) (name : String) (e : Expr) :
    Query.Column :=
  ⟨⟨name, e.type?.getD .dataset, (Assoc.find? roles name).getD role⟩, .computed e⟩

/-- What is calculated under the name of a column, or else the column. -/
def replacedColumn (roles : List (String × Role)) (items : List (String × Expr))
    (c : Query.Column) : Query.Column :=
  match Assoc.find? items c.component.name with
  | some e => calculatedColumn roles c.component.role c.component.name e
  | none => c

/-- What is calculated under other names than those given. -/
def newColumns (roles : List (String × Role)) (names : List String) (items : List (String × Expr)) :
    List Query.Column :=
  (items.filter fun item => item.1 ∉ names).map fun item =>
    calculatedColumn roles .measure item.1 item.2

/-- Columns after all replacements, then the new ones. -/
def calculatedColumns (roles : List (String × Role)) (columns : List Query.Column)
    (items : List (String × Expr)) : List Query.Column :=
  columns.map (replacedColumn roles items) ++ newColumns roles (columnNames columns) items

/-- Expressions of single values. -/
def Scalars (items : List (String × Expr)) : Prop :=
  ∀ item ∈ items, ∃ t, item.2.type? = some (.scalar t)

section

variable {roles : List (String × Role)} {columns out : List Query.Column} {c : Query.Column}
  {items : List (String × Expr)} {name : String} {e : Expr} {type : DataType}

theorem replacedColumn_name : (replacedColumn roles items c).component.name = c.component.name := by
  unfold replacedColumn
  split <;> rfl

theorem replacedColumn_of_notMem (other : c.component.name ∉ Assoc.names items) :
    replacedColumn roles items c = c := by
  unfold replacedColumn
  rw [(Assoc.find?_eq_none_iff items _).mpr other]

theorem replacedColumn_of_mem (distinct : (Assoc.names items).Nodup)
    (member : (c.component.name, e) ∈ items) :
    replacedColumn roles items c =
      calculatedColumn roles c.component.role c.component.name e := by
  unfold replacedColumn
  rw [(Assoc.find?_eq_some_iff distinct).mpr member]

theorem replacedColumn_cons : replacedColumn roles ((name, e) :: items) c =
    if name = c.component.name then calculatedColumn roles c.component.role name e
    else replacedColumn roles items c := by
  unfold replacedColumn
  rw [Assoc.find?_cons]
  by_cases same : name = c.component.name
  · rw [if_pos same, if_pos same, same]
  · rw [if_neg same, if_neg same]

theorem columnNames_append (columns others : List Query.Column) :
    columnNames (columns ++ others) = columnNames columns ++ columnNames others := by
  simp only [columnNames, List.map_append]

theorem columnNames_replaced :
    columnNames (columns.map (replacedColumn roles items)) = columnNames columns := by
  unfold columnNames
  rw [List.map_map, List.map_map, List.map_map]
  exact List.map_congr_left fun c _ => replacedColumn_name

theorem columnNames_new (names : List String) :
    columnNames (newColumns roles names items) =
      (Assoc.names items).filter fun name => name ∉ names := by
  unfold columnNames newColumns Assoc.names
  rw [List.map_map, List.map_map, List.filter_map]
  rfl

theorem columnNames_calculated : columnNames (calculatedColumns roles columns items) =
    columnNames columns ++ (Assoc.names items).filter fun name => name ∉ columnNames columns := by
  rw [calculatedColumns, columnNames_append, columnNames_replaced, columnNames_new]

theorem columnNames_calculated_nodup (own : (columnNames columns).Nodup)
    (distinct : (Assoc.names items).Nodup) :
    (columnNames (calculatedColumns roles columns items)).Nodup := by
  rw [columnNames_calculated, List.nodup_append]
  refine ⟨own, distinct.filter _, fun name known other new same => ?_⟩
  have absent := (List.mem_filter.mp new).2
  simp [← same, known] at absent

/-- Columns of other names stay as they are. -/
theorem replaced_of_disjoint (other : ∀ c ∈ columns, c.component.name ∉ Assoc.names items) :
    columns.map (replacedColumn roles items) = columns :=
  (List.map_congr_left fun c member => replacedColumn_of_notMem (other c member)).trans
    (List.map_id _)

theorem putColumn_eq (own : (columnNames columns).Nodup) (typed : e.type? = some type) :
    Query.putColumn roles columns name type e = calculatedColumns roles columns [(name, e)] := by
  induction columns with
  | nil =>
    simp [Query.putColumn, calculatedColumns, newColumns, columnNames, calculatedColumn, typed]
  | cons c rest ih =>
    obtain ⟨different, own⟩ := List.nodup_cons.mp own
    unfold Query.putColumn
    by_cases same : c.component.name = name
    · have others : rest.map (replacedColumn roles [(name, e)]) = rest := by
        refine replaced_of_disjoint fun d member taken => different ?_
        have named : d.component.name = name := List.mem_singleton.mp taken
        rw [same, ← named]
        exact List.mem_map_of_mem (List.mem_map_of_mem member)
      simp [same, calculatedColumns, others, newColumns, columnNames, replacedColumn,
        Assoc.find?_cons, calculatedColumn, typed]
    · have kept : replacedColumn roles [(name, e)] c = c :=
        replacedColumn_of_notMem fun taken => same (List.mem_singleton.mp taken)
      have as_before : newColumns roles (columnNames (c :: rest)) [(name, e)] =
          newColumns roles (columnNames rest) [(name, e)] := by
        simp [newColumns, columnNames, List.filter_cons, Ne.symm same]
      rw [if_neg same, ih own, calculatedColumns, calculatedColumns, as_before, List.map_cons, kept]
      rfl

/-- One column at a time gives what all of them give at once. -/
theorem calculatedColumns_cons (different : name ∉ Assoc.names items) :
    calculatedColumns roles (calculatedColumns roles columns [(name, e)]) items =
      calculatedColumns roles columns ((name, e) :: items) := by
  have replaced : (columns.map (replacedColumn roles [(name, e)])).map
      (replacedColumn roles items) = columns.map (replacedColumn roles ((name, e) :: items)) := by
    rw [List.map_map]
    refine List.map_congr_left fun c _ => ?_
    rw [Function.comp_apply, replacedColumn_cons, replacedColumn_cons]
    split
    · exact replacedColumn_of_notMem different
    · rfl
  -- the first column is not touched again, as its name is not calculated twice
  have fresh : (newColumns roles (columnNames columns) [(name, e)]).map
      (replacedColumn roles items) = newColumns roles (columnNames columns) [(name, e)] := by
    refine replaced_of_disjoint fun c member => ?_
    obtain ⟨item, here, rfl⟩ := List.mem_map.mp member
    rw [List.mem_singleton.mp (List.mem_filter.mp here).1]
    exact different
  have later : newColumns roles (columnNames (calculatedColumns roles columns [(name, e)])) items =
      newColumns roles (columnNames columns) items := by
    unfold newColumns
    congr 1
    refine List.filter_congr fun item member => ?_
    have other : item.1 ≠ name := fun same => different (same ▸ List.mem_map_of_mem member)
    rw [columnNames_calculated]
    simp [Assoc.names, other]
  have split : newColumns roles (columnNames columns) [(name, e)] ++
      newColumns roles (columnNames columns) items =
      newColumns roles (columnNames columns) ((name, e) :: items) := by
    unfold newColumns
    rw [← List.map_append, ← List.filter_append]
    rfl
  rw [calculatedColumns, later, calculatedColumns, List.map_append, replaced, fresh,
    List.append_assoc, split]
  rfl

/-- Expressions of single values give all their columns at once. -/
theorem putColumns_ok_iff (own : (columnNames columns).Nodup)
    (distinct : (Assoc.names items).Nodup) :
    Query.putColumns roles columns items = .ok out ↔
      Scalars items ∧ out = calculatedColumns roles columns items := by
  induction items generalizing columns with
  | nil =>
    have unchanged : calculatedColumns roles columns [] = columns := by
      rw [calculatedColumns, replaced_of_disjoint fun c _ => List.not_mem_nil]
      exact List.append_nil columns
    rw [unchanged]
    exact ⟨fun h => ⟨nofun, (Except.ok.inj h).symm⟩, fun ⟨_, same⟩ => congrArg _ same.symm⟩
  | cons item rest ih =>
    obtain ⟨name, e⟩ := item
    obtain ⟨different, distinct⟩ := List.nodup_cons.mp distinct
    unfold Query.putColumns Scalars
    rw [List.forall_mem_cons]
    split
    · rename_i t typed
      have next : (columnNames (calculatedColumns roles columns [(name, e)])).Nodup :=
        columnNames_calculated_nodup own (List.nodup_singleton name)
      rw [putColumn_eq own typed, ih next distinct, calculatedColumns_cons different]
      exact ⟨fun ⟨typed', same⟩ => ⟨⟨⟨t, typed⟩, typed'⟩, same⟩,
        fun ⟨⟨_, typed'⟩, same⟩ => ⟨typed', same⟩⟩
    · rename_i untyped
      exact ⟨nofun, fun ⟨⟨⟨t, typed⟩, _⟩, _⟩ => (untyped t typed).elim⟩

/-- Calculations in another order replace the same columns. -/
theorem replacedColumn_perm {roles' : List (String × Role)} {items' : List (String × Expr)}
    (distinctRoles : (Assoc.names roles).Nodup) (roles_perm : roles.Perm roles')
    (distinct : (Assoc.names items).Nodup) (perm : items.Perm items') :
    replacedColumn roles items = replacedColumn roles' items' := by
  funext c
  unfold replacedColumn calculatedColumn
  rw [Assoc.find?_perm distinct perm, Assoc.find?_perm distinctRoles roles_perm]

theorem newColumns_perm {roles' : List (String × Role)} {items' : List (String × Expr)}
    {names : List String} (distinctRoles : (Assoc.names roles).Nodup)
    (roles_perm : roles.Perm roles') (perm : items.Perm items') :
    (newColumns roles names items).Perm (newColumns roles' names items') := by
  have same : calculatedColumn roles' = calculatedColumn roles := by
    funext role name e
    unfold calculatedColumn
    rw [Assoc.find?_perm distinctRoles roles_perm]
  unfold newColumns
  rw [same]
  exact (perm.filter _).map _

end

/-! ### Checking -/

namespace Checking

/-- The expression of a calculated column under the name of the column. -/
def named (layout : Structure) (c : Calculation) : Except Error (String × Expr) := do
  return (c.name, ← calculation layout c)

section

variable {layout : Structure} {taken : List String} {items : List Calculation} {c : Calculation}
  {es : List (String × Expr)} {e : Expr}

theorem named_ok {entry : String × Expr} (h : named layout c = .ok entry) :
    entry.1 = c.name ∧ calculation layout c = .ok entry.2 := by
  obtain ⟨e, made, h⟩ := bind_ok h
  rw [pure_ok h]
  exact ⟨rfl, made⟩

theorem names_named (h : items.mapM (named layout) = .ok es) :
    Assoc.names es = items.map Calculation.name := by
  have each := mapM_ok h
  clear h
  induction each with
  | nil => rfl
  | cons first _ ih =>
    rw [List.map_cons, ← (named_ok first).1, ← ih]
    rfl

/-- Every column has an expression of its own and none is calculated twice. -/
theorem calculations_ok_iff : calculations layout taken items = .ok es ↔
    items.mapM (named layout) = .ok es ∧ (items.map Calculation.name).Nodup ∧
      ∀ c ∈ items, c.name ∉ taken := by
  induction items generalizing taken es with
  | nil =>
    rw [List.mapM_nil]
    exact ⟨fun h => ⟨h, List.nodup_nil, List.forall_mem_nil _⟩, fun h => h.1⟩
  | cons c rest ih =>
    unfold calculations
    rw [List.map_cons, List.nodup_cons, List.forall_mem_cons]
    constructor
    · intro h
      obtain ⟨e, made, h⟩ := bind_ok h
      split at h
      · cases h
      · rename_i fresh
        obtain ⟨later, others, h⟩ := bind_ok h
        obtain ⟨each, distinct, new⟩ := ih.mp others
        cases pure_ok h
        refine ⟨?_, ⟨fun again => ?_, distinct⟩, fresh, fun d member known => ?_⟩
        · rw [List.mapM_cons, each, named, made]
          rfl
        · obtain ⟨d, member, same⟩ := List.mem_map.mp again
          exact new d member (same ▸ List.mem_cons_self)
        · exact new d member (List.mem_cons_of_mem _ known)
    · rintro ⟨each, ⟨different, distinct⟩, fresh, new⟩
      obtain ⟨entry, later, first, others, rfl⟩ := mapM_cons_ok each
      obtain ⟨own, made⟩ := named_ok first
      rw [made, ok_bind, if_neg fresh, ih.mpr ⟨others, distinct, fun d member => ?_⟩, ← own]
      · rfl
      · rw [List.mem_cons, not_or]
        exact ⟨fun same => different (List.mem_map.mpr ⟨d, member, same⟩), new d member⟩

/-- A calculated column means what its expression means, and has the type of the expression or, for
NULL, of the column that it replaces. -/
theorem calculation_ok (h : calculation layout c = .ok e) :
    ∃ own, c.operand.expr = .ok own ∧ (∀ env, e.resolve env = own.resolve env) ∧
      ∀ type, e.type? = some type →
        own.type? = some type ∨ own.type? = none ∧ layout.columnType? c.name = some type := by
  obtain ⟨own, checked, h⟩ := bind_ok h
  refine ⟨own, checked, ?_⟩
  split at h
  · rename_i null
    cases own with
    | null =>
      split at h
      · rename_i component found
        unfold Expr.typedNull Expr.ofValues at h
        split at h
        · rename_i t typed
          cases h
          refine ⟨fun _ => rfl, fun type same => .inr ⟨rfl, ?_⟩⟩
          rw [Structure.columnType?, found, ← same, Option.map_some, typed]
          rfl
        · cases h
      · cases h
    | scalar t f => cases null
    | query q => cases null
  · rw [pure_ok h]
    exact ⟨fun _ => rfl, fun type same => .inl same⟩

end

end Checking

/-! ### Rows -/

theorem exists_forall₂ {α β γ : Type} {R : α → β → Prop} {S : α → γ → Prop} {T : β → γ → Prop}
    {xs : List α} {ys : List β} (related : List.Forall₂ R xs ys)
    (each : ∀ x y, R x y → ∃ z, S x z ∧ T y z) :
    ∃ zs, List.Forall₂ S xs zs ∧ List.Forall₂ T ys zs := by
  induction related with
  | nil => exact ⟨[], .nil, .nil⟩
  | cons first _ ih =>
    obtain ⟨z, left, right⟩ := each _ _ first
    obtain ⟨zs, lefts, rights⟩ := ih
    exact ⟨z :: zs, .cons left lefts, .cons right rights⟩

/-- A row with the cells that columns take from another row. -/
structure ComputedRow (layout : Structure) (columns : List Query.Column) (r s : Row) : Prop where
  layout : s.layout = layout
  cells : columns.mapM (·.cell r) = .ok s.cells

/-- A query that computes columns for every row of its input. -/
structure Query.Computes (q input : Query) (columns : List Query.Column) : Prop where
  components : q.layout.components = columns.map Query.Column.component
  run_iff : ∀ env out, q.run env = .ok out ↔ ∃ d, input.run env = .ok d ∧ out.layout = q.layout ∧
    List.Forall₂ (ComputedRow q.layout columns) d.rows out.rows

section

variable {layout : Structure} {columns columns' : List Query.Column} {c : Query.Column}
  {r s : Row}

theorem ComputedRow.wellFormed (laid : layout.components = columns.map Query.Column.component)
    (row : ComputedRow layout columns r s) : s.WellFormed := by
  rw [Row.WellFormed, row.layout, Structure.size, laid, List.length_map]
  exact (mapM_ok row.cells).length_eq.symm

theorem computedRows_laidOut (laid : layout.components = columns.map Query.Column.component)
    {rows rows' : List Row} (computed : List.Forall₂ (ComputedRow layout columns) rows rows') :
    ∀ s ∈ rows', s.layout = layout ∧ s.WellFormed := by
  have each : List.Forall₂ (fun s r => (s.layout = layout ∧ s.WellFormed) ∧
      ComputedRow layout columns r s) rows' rows :=
    computed.flip.imp fun _ _ row => ⟨⟨row.layout, row.wellFormed laid⟩, row⟩
  exact ((List.forall₂_and_left rows' rows).mp each).1

/-- Under the name of a column stands what it takes. -/
theorem ComputedRow.get? (laid : layout.components = columns.map Query.Column.component)
    (row : ComputedRow layout columns r s) (member : c ∈ columns) :
    ∃ v, c.cell r = .ok v ∧ s.get? c.component.name = some v := by
  have each := mapM_ok row.cells
  obtain ⟨i, bound, rfl⟩ := List.getElem_of_mem member
  have within : i < s.cells.length := each.length_eq ▸ bound
  have place : s.layout.indexOf? columns[i].component.name = some i := by
    rw [row.layout]
    refine Structure.indexOf?_eq_some_iff.mpr ⟨columns[i].component, ?_, rfl⟩
    rw [laid, List.getElem?_map, List.getElem?_eq_getElem bound]
    rfl
  exact ⟨s.cells[i], each.get bound within, by
    simp [Row.get?, place, List.getElem?_eq_getElem within]⟩

theorem ComputedRow.get?_eq_none (laid : layout.components = columns.map Query.Column.component)
    (row : ComputedRow layout columns r s) {name : String} (absent : name ∉ columnNames columns) :
    s.get? name = none := by
  have unknown : name ∉ s.layout.names := by
    rw [row.layout, Structure.names, laid]
    exact absent
  rw [Row.get?, Structure.indexOf?_eq_none unknown]
  rfl

theorem exists_computedRow (laid : layout.components = columns.map Query.Column.component)
    (perm : columns.Perm columns') {layout' : Structure}
    (laid' : layout'.components = columns'.map Query.Column.component)
    (row : ComputedRow layout columns r s) :
    ∃ s', ComputedRow layout' columns' r s' ∧ ∀ name, s'.get? name = s.get? name := by
  obtain ⟨cells, made⟩ : ∃ cells, columns'.mapM (·.cell r) = .ok cells :=
    exists_mapM fun c member => (row.get? laid (perm.mem_iff.mpr member)).imp fun _ found => found.1
  have row' : ComputedRow layout' columns' r ⟨layout', cells⟩ := ⟨rfl, made⟩
  refine ⟨_, row', fun name => ?_⟩
  -- a name finds the same column in both orders, and that column takes the same from the row
  by_cases known : name ∈ columnNames columns
  · obtain ⟨component, here, rfl⟩ := List.mem_map.mp known
    obtain ⟨c, member, rfl⟩ := List.mem_map.mp here
    obtain ⟨v, computed, held⟩ := row.get? laid member
    obtain ⟨w, computed', held'⟩ := row'.get? laid' (perm.mem_iff.mp member)
    rw [held, held', Except.ok.inj (computed.symm.trans computed')]
  · have absent : name ∉ columnNames columns' :=
      fun member => known (((perm.map _).map _).mem_iff.mpr member)
    rw [row.get?_eq_none laid known, row'.get?_eq_none laid' absent]

end

/-- Computing columns in another order gives the same cells under the same names. -/
theorem Query.Computes.run_perm {q q' input : Query} {columns columns' : List Query.Column}
    (computes : q.Computes input columns) (computes' : q'.Computes input columns')
    (perm : columns.Perm columns') {env : Env} {out : Dataset} (run : q.run env = .ok out) :
    ∃ out', q'.run env = .ok out' ∧
      List.Forall₂ (fun s s' => ∀ name, s'.get? name = s.get? name) out.rows out'.rows := by
  obtain ⟨d, inputRun, -, rows⟩ := (computes.run_iff env out).mp run
  obtain ⟨rows', computed, same⟩ := exists_forall₂ rows fun r s row =>
    exists_computedRow computes.components perm computes'.components row
  exact ⟨⟨q'.layout, rows'⟩, (computes'.run_iff env _).mpr ⟨d, inputRun, rfl, computed⟩, same⟩

/-! ### Calculations on a query -/

section

variable {input q : Query} {roles : List (String × Role)} {es : List (String × Expr)}

theorem columnNames_own (s : Structure) : columnNames (Query.ownColumns s) = s.names := by
  rw [columnNames, Query.ownColumns_components]
  rfl

theorem columnNames_own_nodup (s : Structure) : (columnNames (Query.ownColumns s)).Nodup := by
  rw [columnNames_own]
  exact s.nodup

theorem own_member {s : Structure} {c : Component} {i : Nat} (here : s.components[i]? = some c) :
    ⟨c, .place i⟩ ∈ Query.ownColumns s := by
  obtain ⟨bound, rfl⟩ := List.getElem?_eq_some_iff.mp here
  exact List.mem_mapIdx.mpr ⟨i, bound, rfl⟩

theorem calculate_ok (distinct : (Assoc.names es).Nodup) (h : input.calculate es roles = .ok q) :
    Scalars es ∧ q.Computes input (calculatedColumns roles (Query.ownColumns input.layout) es) := by
  have own := columnNames_own_nodup input.layout
  obtain ⟨columns, put, laid, runs⟩ := Query.calculate_made h
  obtain ⟨scalars, rfl⟩ := (putColumns_ok_iff own distinct).mp put
  refine ⟨scalars, laid, fun env out => ?_⟩
  rw [runs]
  refine ⟨fun run => ?_, ?_⟩
  · obtain ⟨d, inputRun, run⟩ := bind_ok run
    obtain ⟨rows, computed, run⟩ := bind_ok run
    obtain ⟨-, rfl⟩ := layRows_eq_ok_iff.mp run
    exact ⟨d, inputRun, rfl, List.forall₂_map_right_iff.mpr
      ((mapM_ok computed).imp fun r cells made => ⟨rfl, made⟩)⟩
  · rintro ⟨d, inputRun, own, rows⟩
    have computed : d.rows.mapM (fun r => (calculatedColumns roles
        (Query.ownColumns input.layout) es).mapM (·.cell r)) = .ok (out.rows.map Row.cells) :=
      mapM_of_forall₂ (List.forall₂_map_right_iff.mpr (rows.imp fun r s row => row.cells))
    have tabular : out.Tabular := by
      intro s member
      rw [own]
      exact computedRows_laidOut laid rows s member
    rw [inputRun, ok_bind, computed, ok_bind, ← own, layRows_relabel tabular rfl,
      relabel_self tabular]

theorem exists_calculate (distinct : (Assoc.names es).Nodup) (scalars : Scalars es) :
    ∃ q, input.calculate es roles = .ok q := by
  have own := columnNames_own_nodup input.layout
  have put := (@putColumns_ok_iff roles _ _ es own distinct).mpr ⟨scalars, rfl⟩
  have nodup : (columnNames (calculatedColumns roles (Query.ownColumns input.layout) es)).Nodup :=
    columnNames_calculated_nodup own distinct
  have made := Structure.ofComponents_of_nodup nodup
  unfold Query.calculate
  rw [put, ok_bind, made]
  exact ⟨_, rfl⟩

/-- The column under a name that is calculated, whether it is replaced or new. -/
theorem calculated_member {s : Structure} {name : String} {e : Expr}
    (distinct : (Assoc.names es).Nodup) (member : (name, e) ∈ es) :
    calculatedColumn roles (((s.get? name).map Component.role).getD .measure) name e ∈
      calculatedColumns roles (Query.ownColumns s) es := by
  unfold calculatedColumns
  rw [List.mem_append]
  cases found : s.get? name with
  | some c =>
    obtain ⟨-, rfl⟩ := Structure.get?_eq_some_iff.mp found
    obtain ⟨i, -, here⟩ := Structure.exists_indexOf? found
    refine .inl (List.mem_map.mpr ⟨⟨c, .place i⟩, own_member here, ?_⟩)
    rw [replacedColumn_of_mem distinct member]
    rfl
  | none =>
    refine .inr (List.mem_map.mpr ⟨(name, e), List.mem_filter.mpr ⟨member, ?_⟩, rfl⟩)
    rw [columnNames_own, decide_eq_true_eq, Structure.mem_names_iff, found]
    exact nofun

theorem kept_member {s : Structure} {c : Component} {i : Nat} (here : s.components[i]? = some c)
    (other : c.name ∉ Assoc.names es) :
    ⟨c, .place i⟩ ∈ calculatedColumns roles (Query.ownColumns s) es :=
  List.mem_append_left _ (List.mem_map.mpr
    ⟨⟨c, .place i⟩, own_member here, replacedColumn_of_notMem other⟩)

end

/-! ### Cells -/

/-- The value of an expression is of its type already. -/
theorem calculated_cell {roles : List (String × Role)} {role : Role} {name : String} {e : Expr}
    {t : ScalarType} {r : Row} (typed : e.type? = some (.scalar t)) :
    (calculatedColumn roles role name e).cell r = e.resolve r.env := by
  change (do (← e.resolve r.env).cast (e.type?.getD .dataset)) = _
  cases resolved : e.resolve r.env with
  | error fault => rfl
  | ok v =>
    have fits : v.HasType (fun _ => True) (some (.scalar t)) := by
      refine resolve_hasType resolved fun u known => ?_
      rw [typed] at known
      exact (Option.some.inj known).symm
    rw [ok_bind, typed]
    exact cast_of_hasType fits

theorem kept_cell {r : Row} {c : Component} {i : Nat} (width : r.WellFormed)
    (here : r.layout.components[i]? = some c) : r.get? c.name = some (r.cell i) := by
  have place := Structure.indexOf?_eq_some_iff.mpr ⟨c, here, rfl⟩
  obtain ⟨bound, -⟩ := List.getElem?_eq_some_iff.mp here
  have within : i < r.cells.length := by
    rw [width]
    exact bound
  simp [Row.get?, Row.cell, place, List.getElem?_eq_getElem within]

/-! ### The clause -/

/-- The roles that items give to their columns. -/
def rolesIn (items : List CalcItem) : List (String × Role) :=
  items.filterMap fun item => item.role.map (item.name, ·)

theorem names_rolesIn (items : List CalcItem) :
    (Assoc.names (rolesIn items)).Sublist (items.map CalcItem.name) := by
  induction items with
  | nil => exact .slnil
  | cons item rest ih =>
    unfold rolesIn
    rw [List.filterMap_cons]
    cases item.role with
    | none => exact ih.cons _
    | some role => exact ih.cons_cons _

theorem find?_rolesIn {items : List CalcItem} {item : CalcItem}
    (distinct : (items.map CalcItem.name).Nodup) (member : item ∈ items) :
    Assoc.find? (rolesIn items) item.name = item.role := by
  refine Option.ext fun role => ?_
  rw [Assoc.find?_eq_some_iff (distinct.sublist (names_rolesIn items))]
  unfold rolesIn
  rw [List.mem_filterMap]
  constructor
  · rintro ⟨other, here, given⟩
    obtain ⟨role', own, same⟩ := Option.map_eq_some_iff.mp given
    obtain ⟨named, rfl⟩ := Prod.mk.inj same
    rwa [← List.inj_on_of_nodup_map distinct here member named]
  · intro given
    exact ⟨item, member, by rw [given]; rfl⟩

section

variable [PatternLanguage]

/-- An item with its expression checked. -/
def CalcItem.calculation (scope : Scope) (item : CalcItem) : Checking.Calculation :=
  ⟨item.name, item.role, ⟨item.expression, item.expression.check scope⟩⟩

theorem checkCalculations_eq_map (scope : Scope) (items : List CalcItem) :
    checkCalculations scope items = items.map (CalcItem.calculation scope) := by
  induction items with
  | nil => rfl
  | cons item rest ih =>
    obtain ⟨name, role, expression⟩ := item
    rw [checkCalculations, ih, List.map_cons]
    rfl

/-- What a calculation makes of the columns of a dataset: those of the dataset in their places, then
new ones in the order of the items. -/
structure CalculatedColumns (s : Structure) (items : List CalcItem) (t : Structure) : Prop where
  names : t.names = s.names ++ (items.map CalcItem.name).filter fun name => name ∉ s.names
  calculated : ∀ item ∈ items, ∃ e type, item.expression.check s.scope = .ok e ∧
    (e.type? = some type ∨ e.type? = none ∧ s.columnType? item.name = some type) ∧
    t.get? item.name = some ⟨item.name, type,
      item.role.getD (((s.get? item.name).map Component.role).getD .measure)⟩
  kept : ∀ c ∈ s.components, c.name ∉ items.map CalcItem.name → t.get? c.name = some c

/-- What a calculation makes of a row: the expressions are about the row as it was. -/
structure CalculatedRow (s : Structure) (items : List CalcItem) (r out : Row) : Prop where
  calculated : ∀ item ∈ items, ∃ e v, item.expression.check s.scope = .ok e ∧
    e.resolve r.env = .ok v ∧ out.get? item.name = some v
  kept : ∀ name ∈ s.names, name ∉ items.map CalcItem.name → out.get? name = r.get? name

/-- The expressions of items that can be calculated together. -/
structure Calculable (s : Structure) (items : List CalcItem) (es : List (String × Expr)) :
    Prop where
  named : (items.map (CalcItem.calculation s.scope)).mapM (Checking.named s) = .ok es
  distinct : (items.map CalcItem.name).Nodup
  scalars : Scalars es

/-- The columns of a dataset after a calculation. -/
def columnsAfter (s : Structure) (items : List CalcItem) (es : List (String × Expr)) :
    List Query.Column :=
  calculatedColumns (rolesIn items) (Query.ownColumns s) es

section

variable {input output : Query} {s t : Structure} {items items' : List CalcItem}
  {es : List (String × Expr)} {r out : Row}

theorem calculation_names (scope : Scope) (items : List CalcItem) :
    (items.map (CalcItem.calculation scope)).map Checking.Calculation.name =
      items.map CalcItem.name := by
  rw [List.map_map]
  rfl

theorem Calculable.names (h : Calculable s items es) :
    Assoc.names es = items.map CalcItem.name := by
  rw [Checking.names_named h.named, calculation_names]

theorem Calculable.distinct_names (h : Calculable s items es) : (Assoc.names es).Nodup :=
  h.names ▸ h.distinct

theorem check_calculate_ok (h : (Clause.calculate items).check input = .ok output) :
    ∃ es, Calculable input.layout items es ∧
      output.Computes input (columnsAfter input.layout items es) := by
  unfold Clause.check Checking.calculate at h
  rw [checkCalculations_eq_map] at h
  obtain ⟨es, found, h⟩ := bind_ok h
  obtain ⟨named, distinct, -⟩ := Checking.calculations_ok_iff.mp found
  obtain ⟨scalars, computes⟩ := calculate_ok (Checking.names_named named ▸ distinct) h
  rw [calculation_names] at distinct
  rw [List.filterMap_map] at computes
  exact ⟨es, ⟨named, distinct, scalars⟩, computes⟩

theorem Calculable.exists_check (h : Calculable input.layout items es) :
    ∃ output, (Clause.calculate items).check input = .ok output := by
  have found := Checking.calculations_ok_iff.mpr
    ⟨h.named, (calculation_names _ items).symm ▸ h.distinct, fun _ _ => List.not_mem_nil⟩
  unfold Clause.check Checking.calculate
  rw [checkCalculations_eq_map, found]
  exact exists_calculate h.distinct_names h.scalars

theorem Calculable.exists_perm (h : Calculable s items es) (perm : items.Perm items') :
    ∃ es', Calculable s items' es' := by
  have perm' := perm.map (CalcItem.calculation s.scope)
  obtain ⟨es', named⟩ : ∃ es', (items'.map (CalcItem.calculation s.scope)).mapM (Checking.named s) =
      .ok es' := exists_mapM fun c member =>
    (mapM_each h.named (perm'.mem_iff.mpr member)).imp fun _ found => found.2
  have same := mapM_perm perm' h.named named
  exact ⟨es', named, ((perm.map _).nodup_iff).mp h.distinct,
    fun e member => h.scalars e (same.mem_iff.mpr member)⟩

/-- The expression of an item, with its meaning and its type. -/
theorem Calculable.item (h : Calculable s items es) {item : CalcItem} (member : item ∈ items) :
    ∃ e own t, (item.name, e) ∈ es ∧ e.type? = some (.scalar t) ∧
      item.expression.check s.scope = .ok own ∧ (∀ env, e.resolve env = own.resolve env) ∧
      (own.type? = some (.scalar t) ∨
        own.type? = none ∧ s.columnType? item.name = some (.scalar t)) := by
  obtain ⟨⟨name, e⟩, here, found⟩ := mapM_each h.named (List.mem_map_of_mem member)
  obtain ⟨rfl, made⟩ := Checking.named_ok found
  obtain ⟨own, checked, resolves, types⟩ := Checking.calculation_ok made
  obtain ⟨t, typed⟩ := h.scalars _ here
  exact ⟨e, own, t, here, typed, checked, resolves, types _ typed⟩

theorem Calculable.columns (h : Calculable s items es)
    (laid : t.components = (columnsAfter s items es).map Query.Column.component) :
    CalculatedColumns s items t := by
  have found {c : Query.Column} (member : c ∈ columnsAfter s items es) :
      t.get? c.component.name = some c.component := by
    refine Structure.get?_eq_some_iff.mpr ⟨?_, rfl⟩
    rw [laid]
    exact List.mem_map_of_mem member
  refine ⟨?_, fun item member => ?_, fun c member other => ?_⟩
  · have names : t.names = columnNames (columnsAfter s items es) := by
      rw [Structure.names, laid]
      rfl
    rw [names, columnsAfter, columnNames_calculated, columnNames_own, h.names]
  · obtain ⟨e, own, type, here, typed, checked, -, types⟩ := h.item member
    refine ⟨own, .scalar type, checked, types, ?_⟩
    have column := found (calculated_member h.distinct_names here)
    unfold calculatedColumn at column
    rwa [typed, find?_rolesIn h.distinct member] at column
  · obtain ⟨i, here⟩ := List.getElem?_of_mem member
    exact found (kept_member here (h.names ▸ other))

theorem Calculable.row (h : Calculable s items es)
    (laid : t.components = (columnsAfter s items es).map Query.Column.component)
    (row : ComputedRow t (columnsAfter s items es) r out) (own : r.layout = s)
    (width : r.WellFormed) : CalculatedRow s items r out := by
  refine ⟨fun item member => ?_, fun name known other => ?_⟩
  · obtain ⟨e, own, type, here, typed, checked, resolves, -⟩ := h.item member
    obtain ⟨v, cell, held⟩ := row.get? laid (calculated_member h.distinct_names here)
    rw [calculated_cell typed, resolves] at cell
    exact ⟨own, v, checked, cell, held⟩
  · obtain ⟨c, inside, rfl⟩ := List.mem_map.mp known
    obtain ⟨i, here⟩ := List.getElem?_of_mem inside
    obtain ⟨v, cell, held⟩ := row.get? laid (kept_member here (h.names ▸ other))
    subst own
    rw [held, kept_cell width here]
    exact congrArg some (Except.ok.inj cell).symm

omit [PatternLanguage] in
/-- The columns of the dataset come first. -/
theorem split_columnsAfter
    (laid : t.components = (columnsAfter s items es).map Query.Column.component) :
    t.components.take s.size =
        ((Query.ownColumns s).map (replacedColumn (rolesIn items) es)).map Query.Column.component ∧
      t.components.drop s.size =
        (newColumns (rolesIn items) s.names es).map Query.Column.component := by
  have size : s.size = (((Query.ownColumns s).map (replacedColumn (rolesIn items) es)).map
      Query.Column.component).length := by
    simp [Query.ownColumns, Structure.size]
  rw [laid, columnsAfter, calculatedColumns, columnNames_own, List.map_append]
  exact ⟨List.take_left' size.symm, List.drop_left' size.symm⟩

/-- Items in another order replace the same columns and add the same ones in another order. -/
theorem Calculable.perm {es' : List (String × Expr)} (h : Calculable s items es)
    (h' : Calculable s items' es') (perm : items.Perm items') :
    replacedColumn (rolesIn items') es' = replacedColumn (rolesIn items) es ∧
      (newColumns (rolesIn items') s.names es').Perm (newColumns (rolesIn items) s.names es) := by
  have same := mapM_perm (perm.map _) h.named h'.named
  have roles_distinct := h.distinct.sublist (names_rolesIn items)
  have roles_perm : (rolesIn items).Perm (rolesIn items') := perm.filterMap _
  exact ⟨(replacedColumn_perm roles_distinct roles_perm h.distinct_names same).symm,
    (newColumns_perm roles_distinct roles_perm same).symm⟩

theorem Calculable.columnsAfter_perm {es' : List (String × Expr)} (h : Calculable s items es)
    (h' : Calculable s items' es') (perm : items.Perm items') :
    (columnsAfter s items es).Perm (columnsAfter s items' es') := by
  obtain ⟨replaced, added⟩ := h.perm h' perm
  unfold columnsAfter calculatedColumns
  rw [columnNames_own, replaced]
  exact added.symm.append_left _

end

/-- A calculation replaces and adds columns all at once: every expression is about the row as it
was, the other columns stay as they are, and the order of the items is that of the new columns, no
more. -/
theorem calculate_simultaneous {input output : Query} {items : List CalcItem}
    (checked : (Clause.calculate items).check input = .ok output) :
    CalculatedColumns input.layout items output.layout ∧
      (∀ env out, input.BoundIn env → output.run env = .ok out →
        out.layout = output.layout ∧ out.Tabular ∧
          ∃ d, input.run env = .ok d ∧
            List.Forall₂ (CalculatedRow input.layout items) d.rows out.rows) ∧
      ∀ items', items.Perm items' → ∃ output', (Clause.calculate items').check input = .ok output' ∧
        output'.layout.components.take input.layout.size =
          output.layout.components.take input.layout.size ∧
        (output'.layout.components.drop input.layout.size).Perm
          (output.layout.components.drop input.layout.size) ∧
        ∀ env out, output.run env = .ok out → ∃ out', output'.run env = .ok out' ∧
          List.Forall₂ (fun r r' => ∀ name, r'.get? name = r.get? name) out.rows out'.rows := by
  obtain ⟨es, calculable, computes⟩ := check_calculate_ok checked
  refine ⟨calculable.columns computes.components, fun env out bound run => ?_,
    fun items' perm => ?_⟩
  · obtain ⟨d, inputRun, own, rows⟩ := (computes.run_iff env out).mp run
    obtain ⟨layout, tabular⟩ := bound d inputRun
    refine ⟨own, fun s member => ?_, d, inputRun, ?_⟩
    · rw [own]
      exact computedRows_laidOut computes.components rows s member
    · have each := (List.forall₂_and_left _ _).mpr ⟨tabular, rows⟩
      exact each.imp fun r s ⟨⟨given, width⟩, row⟩ =>
        calculable.row computes.components row (given.trans layout) width
  · obtain ⟨es', calculable'⟩ := calculable.exists_perm perm
    obtain ⟨output', checked'⟩ := calculable'.exists_check
    obtain ⟨es', calculable', computes'⟩ := check_calculate_ok checked'
    obtain ⟨replaced, added⟩ := calculable.perm calculable' perm
    obtain ⟨first, last⟩ := split_columnsAfter computes.components
    obtain ⟨first', last'⟩ := split_columnsAfter computes'.components
    refine ⟨output', checked', ?_, ?_, fun env out run =>
      computes.run_perm computes' (calculable.columnsAfter_perm calculable' perm) run⟩
    · rw [first, first', replaced]
    · rw [last, last']
      exact added.map _

end

namespace Exchanges

def columns : Structure :=
  ⟨[⟨"a", .integer, .identifier⟩, ⟨"b", .integer, .measure⟩, ⟨"note", .string, .attr⟩,
    ⟨"c", .integer, .measure⟩], by decide⟩

def given : Dataset := ⟨columns, [⟨columns, [.integer 1, .integer 2, .string "x", .integer 5]⟩,
  ⟨columns, [.integer 3, .null, .null, .integer 7]⟩]⟩

/-- Two columns exchanged, one replaced by NULL, and two new ones about the columns as they were. -/
def items : List CalcItem :=
  [⟨"sum", none, ⟨.binary (.additive .plus) ⟨.name "a", none⟩ ⟨.name "c", none⟩, none⟩⟩,
    ⟨"a", none, ⟨.name "b", none⟩⟩, ⟨"b", some .attr, ⟨.name "a", none⟩⟩,
    ⟨"note", none, ⟨.literal .null, none⟩⟩, ⟨"old", some .identifier, ⟨.name "b", none⟩⟩]

def exchangedColumns : Structure :=
  ⟨[⟨"a", .integer, .identifier⟩, ⟨"b", .integer, .attr⟩, ⟨"note", .string, .attr⟩,
    ⟨"c", .integer, .measure⟩, ⟨"sum", .integer, .measure⟩, ⟨"old", .integer, .identifier⟩],
    by decide⟩

def exchanged : Dataset := ⟨exchangedColumns,
  [⟨exchangedColumns, [.integer 2, .integer 1, .null, .integer 5, .integer 6, .integer 2]⟩,
    ⟨exchangedColumns, [.null, .integer 3, .null, .integer 7, .integer 10, .null]⟩]⟩

end Exchanges

open Exchanges in
/-- In reverse the items give the columns `old` and `sum` in the other order. -/
theorem columns_exchanged :
    ∃ output, (Clause.calculate items).check (.constant given) = .ok output ∧
      output.layout = exchangedColumns ∧ output.run (fun _ => none) = .ok exchanged ∧
      List.Forall₂ (CalculatedRow columns items) given.rows exchanged.rows ∧
      ∃ output' d, (Clause.calculate items.reverse).check (.constant given) = .ok output' ∧
        output'.layout.names = ["a", "b", "note", "c", "old", "sum"] ∧
        output'.run (fun _ => none) = .ok d ∧
        List.Forall₂ (fun r r' => ∀ name, r'.get? name = r.get? name) exchanged.rows d.rows := by
  have bound : (Query.constant given).BoundIn fun _ => none := by
    rintro d ⟨⟩
    refine ⟨rfl, ?_⟩
    unfold Dataset.Tabular Row.WellFormed
    decide
  have run : (do (← (Clause.calculate items).check (.constant given)).run fun _ => none) =
      .ok exchanged := rfl
  obtain ⟨output, checked⟩ :
      ∃ output, (Clause.calculate items).check (.constant given) = .ok output := ⟨_, rfl⟩
  rw [checked, ok_bind] at run
  obtain ⟨-, calculated, permuted⟩ := calculate_simultaneous checked
  obtain ⟨layout, -, d, ⟨⟩, rows⟩ := calculated _ _ bound run
  obtain ⟨output', checked', -, -, runs⟩ := permuted items.reverse (List.reverse_perm items).symm
  obtain ⟨d, run', same⟩ := runs _ _ run
  have names : output'.layout.names = ["a", "b", "note", "c", "old", "sum"] :=
    (calculate_simultaneous checked').1.names
  exact ⟨output, checked, layout.symm, run, rows, output', d, checked', names, run', same⟩

end DatasetScript
