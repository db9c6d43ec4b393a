import DatasetScript.Proofs.DatasetSoundness
import DatasetScript.Proofs.Distribution
import DatasetScript.Proofs.Joins
import Mathlib.Algebra.GroupWithZero.Nat
import Mathlib.Algebra.Ring.Int.Defs
/-!
# Groups of rows

A clause that aggregates gives one row for each key, in the order in which the keys first appear:
the key, and what every aggregation collects over the rows that have it. Main statements:
`groupByKey_eq` for any items, and `aggregate_groups` for the clause.
-/

namespace DatasetScript

/-! ### Groups of items -/

section

variable {α : Type} {key : α → List Value} {items : List α} {a : α} {k : List Value}

/-- The items with a key, under the key. -/
def groupOf (key : α → List Value) (items : List α) (k : List Value) : List Value × List α :=
  (k, items.filter fun a => sameKey (key a) k)

theorem groupOf_append :
    groupOf key (items ++ [a]) k =
      if sameKey (key a) k then (k, (groupOf key items k).2 ++ [a]) else groupOf key items k := by
  unfold groupOf
  rw [List.filter_append, List.filter_singleton]
  cases sameKey (key a) k <;> simp

theorem groupOf_new (plain : ∀ b ∈ items, PlainKey (key b)) (new : k ∉ items.map key) :
    groupOf key items k = (k, []) := by
  unfold groupOf
  congr 1
  refine List.filter_eq_nil_iff.mpr fun b member same => new ?_
  rw [← (sameKey_iff (plain b member)).mp same]
  exact List.mem_map_of_mem member

/-- An item joins the group of its key, or else opens a group after the others. -/
theorem addToGroup_eq {keys : List (List Value)} (plain : PlainKey (key a))
    (plainKeys : ∀ k ∈ keys, PlainKey k) (nodup : keys.Nodup) :
    addToGroup (key a) a (keys.map (groupOf key items)) =
      keys.map (groupOf key (items ++ [a])) ++
        if keys.any (sameKey (key a)) then [] else [(key a, [a])] := by
  induction keys with
  | nil => rfl
  | cons k rest ih =>
    obtain ⟨absent, nodup⟩ := List.nodup_cons.mp nodup
    have plainK := plainKeys k List.mem_cons_self
    have ih := ih (fun other later => plainKeys other (List.mem_cons_of_mem k later)) nodup
    simp only [List.map_cons, List.any_cons]
    rw [groupOf_append]
    by_cases same : key a = k
    · subst same
      have unchanged : rest.map (groupOf key (items ++ [a])) = rest.map (groupOf key items) := by
        refine List.map_congr_left fun other later => ?_
        rw [groupOf_append, if_neg]
        rw [sameKey_iff plain]
        exact fun equal => absent (equal ▸ later)
      simp [groupOf, addToGroup, sameKey_self plain, unchanged]
    · have different : sameKey (key a) k = false := (sameKey_eq_false_iff plain).mpr same
      have different' : sameKey k (key a) = false := (sameKey_eq_false_iff plainK).mpr (Ne.symm same)
      rw [groupOf, addToGroup, if_neg (by simp [different']), ih]
      simp [different]

/-- Grouping gives each key once, in the order of first appearance, with the items that have it in
their order. -/
theorem groupByKey_eq (plain : ∀ a ∈ items, PlainKey (key a)) :
    groupByKey key items = (distinctKeys (items.map key)).map (groupOf key items) := by
  induction items using List.reverseRecOn with
  | nil => rfl
  | append_singleton items a ih =>
    have plainA : PlainKey (key a) := plain a (by simp)
    have plainItems : ∀ b ∈ items, PlainKey (key b) := fun b member =>
      plain b (List.mem_append_left _ member)
    have plainKeys : ∀ k ∈ items.map key, PlainKey k := List.forall_mem_map.mpr plainItems
    have distinct : ∀ k ∈ distinctKeys (items.map key), PlainKey k := fun k member =>
      plainKeys k ((mem_distinctKeys plainKeys).mp member)
    have ih := ih plainItems
    -- the last item comes to the groups of those before it
    unfold groupByKey at ih ⊢
    rw [List.foldl_append, ih, List.foldl_cons, List.foldl_nil,
      addToGroup_eq plainA distinct (distinctKeys_nodup plainKeys), any_distinctKeys plainKeys plainA,
      List.map_append, List.map_singleton, distinctKeys_concat plainKeys, List.map_append]
    congr 1
    by_cases old : (items.map key).any (sameKey (key a))
    · rw [if_pos old, if_pos old, List.map_nil]
    · have new := mt (any_sameKey_iff plainA).mpr old
      rw [if_neg old, if_neg old, List.map_singleton, groupOf_append,
        if_pos (sameKey_self plainA), groupOf_new plainItems new]
      rfl

end

/-! ### Groups of rows -/

/-- The keys of the rows, each once and in the order in which they first appear. Without names to
group by there is one key, also where there are no rows. -/
def groupKeys (names : List String) (rows : List Row) : List (List Value) :=
  if names = [] then [[]] else distinctKeys (rows.map (Row.key names))

section

variable {names : List String} {d : Dataset} {key : List Value}

theorem matching_nil : d.matching [] [] = d.rows := List.filter_eq_self.mpr fun _ _ => rfl

/-- Without names, all rows have the empty key. -/
theorem distinctKeys_without_names (some_row : d.rows ≠ []) :
    distinctKeys (d.rows.map (Row.key [])) = [[]] := by
  refine distinctKeys_of_eq nofun (by simpa using some_row) (List.forall_mem_map.mpr fun _ _ => rfl)

theorem groupKeys_of_ne (some_name : names ≠ []) :
    groupKeys names d.rows = distinctKeys (d.rows.map (Row.key names)) := if_neg some_name

/-- A key that rows are grouped by is the key of the first of its rows. -/
theorem exists_first (plain : d.PlainKeys names) (some_name : names ≠ [])
    (member : key ∈ groupKeys names d.rows) :
    ∃ r rest, d.matching names key = r :: rest ∧ r ∈ d.rows ∧ r.key names = key := by
  rw [groupKeys_of_ne some_name, mem_distinctKeys plain.keys, ← hasKey_iff_mem plain] at member
  obtain ⟨r, rest, found⟩ := List.exists_cons_of_ne_nil (hasKey_iff.mp member)
  have first : r ∈ d.matching names key := found ▸ List.mem_cons_self
  obtain ⟨here, same⟩ := List.mem_filter.mp first
  exact ⟨r, rest, found, here, (sameKey_iff (plain r here)).mp same⟩

/-- Every row is in the group of one key. -/
theorem perm_groups (plain : d.PlainKeys names) :
    d.rows.Perm ((groupKeys names d.rows).flatMap (d.matching names)) := by
  unfold groupKeys
  split
  · rename_i without
    subst without
    rw [List.flatMap_singleton, matching_nil]
  · exact perm_flatMap_filter plain

theorem groupsOf_eq {carries : Bool} {keyOf : Row → List Value} (plain : d.PlainKeys names)
    (carried : carries ↔ names ≠ []) (own : ∀ r ∈ d.rows, keyOf r = r.key names) :
    Query.groupsOf carries keyOf d.rows = (groupKeys names d.rows).map (d.matching names) := by
  have grouped : (groupByKey keyOf d.rows).map (·.2) =
      (distinctKeys (d.rows.map (Row.key names))).map (d.matching names) := by
    rw [groupByKey_eq fun r member => own r member ▸ plain r member, List.map_map,
      List.map_congr_left own]
    refine List.map_congr_left fun key _ => List.filter_congr fun r member => ?_
    rw [own r member]
  by_cases some_name : names = []
  · subst some_name
    have global : carries = false := by simpa using carried
    rw [show groupKeys [] d.rows = [[]] from rfl, List.map_singleton, matching_nil]
    cases none_left : d.rows with
    | nil => simp [Query.groupsOf, groupByKey, global]
    | cons first rest =>
      have some_row : d.rows ≠ [] := none_left ▸ List.cons_ne_nil first rest
      rw [distinctKeys_without_names some_row, List.map_singleton, matching_nil] at grouped
      unfold Query.groupsOf
      rw [← none_left]
      split
      · rename_i no_group
        rw [no_group] at grouped
        cases grouped
      · exact grouped
  · rw [groupKeys_of_ne some_name, ← grouped]
    unfold Query.groupsOf
    split
    · rename_i no_group
      rw [if_pos (carried.mpr some_name), no_group, List.map_nil]
    · rfl

end

/-- A row stands for the rows with a key: it holds the key, then what is collected over them. -/
def Dataset.IsGroupRow (d : Dataset) (s : Structure) (names : List String)
    (aggregations : List Aggregation) (key : List Value) (r : Row) : Prop :=
  ∃ values, aggregations.mapM (·.collect (d.matching names key)) = .ok values ∧
    r = ⟨s, key ++ values⟩

/-! ### What a clause plans -/

/-- The rows are laid out by the structure. Their cells are NULL or exactly of the type of their
column, and not datasets. -/
def Dataset.Exact (s : Structure) (d : Dataset) : Prop :=
  ∀ r ∈ d.rows, r.layout = s ∧
    List.Forall₂ (fun v c => v.isPlain ∧ (v = .null ∨ v.type? = some c.type)) r.cells s.components

/-- The columns that a query groups by, and the columns that it aggregates beside them. -/
structure Query.GroupedBy (input q : Query) (items : List Checking.Collection)
    (names : List String) (groups : List Component) (columns : List (Component × Aggregation)) :
    Prop where
  found : names.mapM input.layout.column = .ok groups
  collected : items.mapM Checking.collection = .ok columns
  components : q.layout.components =
    (groups.map fun c => { c with role := .identifier }) ++ columns.map (·.1)

/-- The aggregations by the names of their columns. -/
def aggregationsOf (columns : List (Component × Aggregation)) : List (String × Aggregation) :=
  columns.map fun column => (column.1.name, column.2)

/-- What becomes of the rows of the input. -/
def collectGroups (layout : Structure) (columns : List (Component × Aggregation))
    (places : List Nat) (d : Dataset) : Except Error Dataset := do
  let aggregations := aggregationsOf columns
  let groups := Query.groupsOf (Query.carriesColumn layout aggregations) (·.pick places) d.rows
  let rows ← groups.mapM fun rows => layout.components.mapM (Query.groupCell aggregations rows)
  Query.layRows layout rows

theorem aggregate_plan {input q : Query} {items : List Checking.Collection} {names : List String}
    (h : Checking.aggregate input items names = .ok q) :
    ∃ groups columns places, input.GroupedBy q items names groups columns ∧
      names.mapM input.layout.place = .ok places ∧
      ∀ env, q.run env = input.run env >>= collectGroups q.layout columns places := by
  obtain ⟨groups, columns, places, found, collected, made, placed, h⟩ := Checking.aggregate_made h
  exact ⟨groups, columns, places, ⟨found, collected, Structure.ofComponents_ok made⟩, placed,
    (Query.aggregate_made h).2⟩

section

variable {input q : Query} {items : List Checking.Collection} {names : List String}
  {groups : List Component} {columns : List (Component × Aggregation)} {d : Dataset}
  {key : List Value} {rows : List Row}

theorem item_names (collected : items.mapM Checking.collection = .ok columns) :
    columns.map (·.1.name) = items.map (·.name) := by
  have each := mapM_ok collected
  clear collected
  induction each with
  | nil => rfl
  | cons column _ ih =>
    obtain ⟨_, -, column⟩ := bind_ok column
    obtain ⟨_, -, column⟩ := bind_ok column
    rw [List.map_cons, List.map_cons, ih, pure_ok column]

theorem Query.GroupedBy.names_eq (plan : input.GroupedBy q items names groups columns) :
    q.layout.names = names ++ columns.map (·.1.name) := by
  unfold Structure.names
  rw [plan.components, List.map_append, List.map_map, List.map_map]
  exact congrArg (· ++ _) (Structure.columns_names plan.found)

theorem Query.GroupedBy.nodup (plan : input.GroupedBy q items names groups columns) :
    (names ++ columns.map (·.1.name)).Nodup := plan.names_eq ▸ q.layout.nodup

theorem names_aggregationsOf : Assoc.names (aggregationsOf columns) = columns.map (·.1.name) := by
  unfold Assoc.names aggregationsOf
  rw [List.map_map]
  rfl

/-- Columns that rows are grouped by are not aggregated. -/
theorem carried_find? (plan : input.GroupedBy q items names groups columns) {name : String}
    (member : name ∈ names) : Assoc.find? (aggregationsOf columns) name = none := by
  rw [Assoc.find?_eq_none_iff, names_aggregationsOf]
  exact List.disjoint_of_nodup_append plan.nodup member

theorem collected_find? (plan : input.GroupedBy q items names groups columns)
    {column : Component × Aggregation} (member : column ∈ columns) :
    Assoc.find? (aggregationsOf columns) column.1.name = some column.2 := by
  have distinct : (Assoc.names (aggregationsOf columns)).Nodup := by
    rw [names_aggregationsOf]
    exact (List.nodup_append.mp plan.nodup).2.1
  exact (Assoc.find?_eq_some_iff distinct).mpr (List.mem_map.mpr ⟨column, member, rfl⟩)

theorem carriesColumn_iff (plan : input.GroupedBy q items names groups columns) :
    Query.carriesColumn q.layout (aggregationsOf columns) ↔ names ≠ [] := by
  unfold Query.carriesColumn
  rw [plan.names_eq, List.any_append, Bool.or_eq_true, List.any_eq_true, List.any_eq_true]
  constructor
  · rintro (⟨name, member, -⟩ | ⟨name, member, unknown⟩)
    · exact List.ne_nil_of_mem member
    · obtain ⟨column, here, rfl⟩ := List.mem_map.mp member
      rw [collected_find? plan here] at unknown
      cases unknown
  · intro some_name
    obtain ⟨name, member⟩ := List.exists_mem_of_ne_nil _ some_name
    exact .inl ⟨name, member, by rw [carried_find? plan member]; rfl⟩

/-! ### Cells of a group -/

theorem cast_of_exact {v : Value} {t : DataType} (exact : v = .null ∨ v.type? = some t) :
    v.cast t = .ok v := by
  rcases exact with rfl | typed
  · rfl
  · cases v <;> cases typed <;> rfl

theorem exact_cell {s : Structure} {r : Row} {name : String} {c : Component} (exact : d.Exact s)
    (member : r ∈ d.rows) (found : s.get? name = some c) :
    ∃ v, r.get? name = some v ∧ v.isPlain ∧ v.cast c.type = .ok v := by
  obtain ⟨rfl, cells⟩ := exact r member
  obtain ⟨v, held, plain, typed⟩ := get?_of_cells cells found
  exact ⟨v, held, plain, cast_of_exact typed⟩

theorem plainKeys_of_exact (found : names.mapM input.layout.column = .ok groups)
    (exact : d.Exact input.layout) : d.PlainKeys names := by
  intro r member v inKey
  obtain ⟨name, named, rfl⟩ := List.mem_map.mp inKey
  obtain ⟨c, -, column⟩ := mapM_each found named
  obtain ⟨v, held, plain, -⟩ := exact_cell exact member (Structure.column_ok column)
  rwa [held]

/-- The cells of the columns that rows are grouped by are the key. -/
theorem key_cells (plan : input.GroupedBy q items names groups columns)
    (exact : d.Exact input.layout) (member : key ∈ groupKeys names d.rows) :
    (groups.map fun c => { c with role := .identifier }).mapM
        (Query.groupCell (aggregationsOf columns) (d.matching names key)) = .ok key := by
  have named := Structure.columns_names plan.found
  by_cases some_name : names = []
  · subst some_name
    rw [List.map_eq_nil_iff.mp named, List.mem_singleton.mp member]
    rfl
  · obtain ⟨r, rest, group, here, rfl⟩ :=
      exists_first (plainKeys_of_exact plan.found exact) some_name member
    have key_eq : r.key names = groups.map fun c => (r.get? c.name).getD .null := by
      unfold Row.key
      rw [← named, List.map_map]
      rfl
    rw [List.mapM_map, group, key_eq]
    refine mapM_of_forall fun c inGroups => ?_
    obtain ⟨name, inNames, column⟩ := mapM_member plan.found inGroups
    have found := Structure.column_ok column
    obtain ⟨-, rfl⟩ := Structure.get?_eq_some_iff.mp found
    obtain ⟨v, held, -, cast⟩ := exact_cell exact here found
    simp only [Function.comp_apply, Query.groupCell, carried_find? plan inNames, List.head?_cons,
      Option.bind_some, held, Option.getD_some, ok_bind, cast]

theorem collected_cell (plan : input.GroupedBy q items names groups columns)
    {column : Component × Aggregation} (member : column ∈ columns) :
    Query.groupCell (aggregationsOf columns) rows column.1 = column.2.collect rows := by
  obtain ⟨item, -, checked⟩ := mapM_member plan.collected member
  obtain ⟨operand, -, checked⟩ := bind_ok checked
  obtain ⟨a, made, checked⟩ := bind_ok checked
  cases pure_ok checked
  obtain ⟨-, t, same, gives⟩ := Yields.locate (ofOperand_gives _ operand) a made
  unfold Query.groupCell
  rw [collected_find? plan member]
  dsimp only
  cases collected : a.collect rows with
  | error e => rfl
  | ok v =>
    have typed : v.HasType (fun _ => True) (some (.scalar t)) := collect_hasType same gives collected
    rw [ok_bind, same]
    exact cast_of_hasType typed

/-- The columns of a group: the key, and what the aggregations collect. -/
theorem group_cells (plan : input.GroupedBy q items names groups columns)
    (exact : d.Exact input.layout) (member : key ∈ groupKeys names d.rows) :
    q.layout.components.mapM
        (Query.groupCell (aggregationsOf columns) (d.matching names key)) = (do
      let values ← columns.mapM fun column => column.2.collect (d.matching names key)
      return key ++ values) := by
  rw [plan.components, List.mapM_append, key_cells plan exact member, ok_bind, List.mapM_map]
  congr 1
  exact mapM_congr fun column here => collected_cell plan here

theorem group_row (plan : input.GroupedBy q items names groups columns)
    (exact : d.Exact input.layout) (member : key ∈ groupKeys names d.rows) {cells : List Value}
    (made : q.layout.components.mapM
      (Query.groupCell (aggregationsOf columns) (d.matching names key)) = .ok cells) :
    d.IsGroupRow q.layout names (columns.map (·.2)) key ⟨q.layout, cells⟩ ∧
      ∀ column ∈ columns, ∃ v, column.2.collect (d.matching names key) = .ok v ∧
        Row.get? ⟨q.layout, cells⟩ column.1.name = some v := by
  constructor
  · rw [group_cells plan exact member] at made
    obtain ⟨values, collected, made⟩ := bind_ok made
    exact ⟨values, by rwa [List.mapM_map], by rw [pure_ok made]⟩
  · intro column here
    have listed : column.1 ∈ q.layout.components := by
      rw [plan.components]
      exact List.mem_append_right _ (List.mem_map_of_mem here)
    obtain ⟨v, held, cell⟩ := get?_of_cells (r := ⟨q.layout, cells⟩) (mapM_ok made).flip
      (Structure.get?_eq_some_iff.mpr ⟨listed, rfl⟩)
    rw [collected_cell plan here] at cell
    exact ⟨v, cell, held⟩

theorem collectGroups_rows {out : Dataset} {places : List Nat}
    (plan : input.GroupedBy q items names groups columns)
    (placed : names.mapM input.layout.place = .ok places) (exact : d.Exact input.layout)
    (run : collectGroups q.layout columns places d = .ok out) :
    out.layout = q.layout ∧ List.Forall₂ (fun key r =>
      d.IsGroupRow q.layout names (columns.map (·.2)) key r ∧
        ∀ column ∈ columns, ∃ v, column.2.collect (d.matching names key) = .ok v ∧
          r.get? column.1.name = some v) (groupKeys names d.rows) out.rows := by
  have plain := plainKeys_of_exact plan.found exact
  have own : ∀ r ∈ d.rows, r.pick places = r.key names := by
    intro r member
    rw [← (exact r member).1] at placed
    exact cellsAt_key placed
  obtain ⟨rows, each, laid⟩ := bind_ok run
  rw [groupsOf_eq plain (carriesColumn_iff plan) own, List.mapM_map] at each
  obtain ⟨-, rfl⟩ := layRows_eq_ok_iff.mp laid
  have made := (List.forall₂_and_left _ _).mpr
    ⟨fun key (member : key ∈ groupKeys names d.rows) => member, mapM_ok each⟩
  exact ⟨rfl, List.forall₂_map_right_iff.mpr
    (made.imp fun key cells ⟨member, made⟩ => group_row plan exact member made)⟩

/-! ### Counting rows -/

theorem collect_count (rows : List Row) :
    Aggregation.collect ⟨.count, none, .integer⟩ rows = .ok (.integer (.ofNat rows.length)) := by
  have counted : rows.mapM (Aggregation.valueAt ⟨.count, none, .integer⟩) =
      .ok (rows.map fun _ => .boolean true) := mapM_of_forall fun _ _ => rfl
  have none_null : (rows.map fun _ => Value.boolean true).filter (!·.isNull) =
      rows.map fun _ => .boolean true :=
    List.filter_eq_self.mpr (List.forall_mem_map.mpr fun _ _ => rfl)
  unfold Aggregation.collect
  rw [counted, ok_bind, none_null]
  simp [Aggregation.summary, pure, Except.pure]

theorem sum_ofNat (sizes : List Nat) : (sizes.map Int64.ofNat).sum = .ofNat sizes.sum := by
  induction sizes with
  | nil => rfl
  | cons n rest ih => rw [List.map_cons, List.sum_cons, List.sum_cons, ih, Int64.ofNat_add]

theorem sum_toInt {sizes : List Nat} (small : sizes.sum < 2 ^ 63) :
    ((sizes.map Int64.ofNat).map Int64.toInt).sum = sizes.sum := by
  induction sizes with
  | nil => rfl
  | cons n rest ih =>
    rw [List.sum_cons] at small
    simp only [List.map_cons, List.sum_cons]
    rw [ih (by omega), Int64.toInt_ofNat_of_lt (by omega), Int.natCast_add]

theorem sum_sizes (plain : d.PlainKeys names) :
    ((groupKeys names d.rows).map fun key => (d.matching names key).length).sum = d.rows.length := by
  rw [(perm_groups plain).length_eq, List.length_flatMap]

/-- The sizes of all groups, as cells of a column, add up to the number of rows. -/
theorem counts_add_up {name : String} {counted : List Row} (plain : d.PlainKeys names)
    (cells : List.Forall₂ (fun key r =>
      r.get? name = some (.integer (.ofNat (d.matching names key).length)))
      (groupKeys names d.rows) counted) :
    ∃ counts : List Int64, counted.map (·.get? name) = counts.map (fun n => some (.integer n)) ∧
      counts.sum = .ofNat d.rows.length ∧
      (d.rows.length < 2 ^ 63 → (counts.map Int64.toInt).sum = d.rows.length) := by
  have sizes := sum_sizes plain
  refine ⟨((groupKeys names d.rows).map fun key => (d.matching names key).length).map Int64.ofNat,
    ?_, ?_, ?_⟩
  · rw [List.map_map, List.map_map, ← List.forall₂_eq_eq_eq, List.forall₂_map_left_iff,
      List.forall₂_map_right_iff]
    exact cells.flip
  · rw [sum_ofNat, sizes]
  · intro small
    rw [← sizes] at small ⊢
    exact sum_toInt small

end

theorem checkCollections_names [PatternLanguage] (scope : Scope) (items : List AggregateItem) :
    (checkCollections scope items).map (·.name) = items.map AggregateItem.name := by
  induction items with
  | nil => rfl
  | cons item rest ih =>
    obtain ⟨name, role, function, _ | operand⟩ := item <;> simp [checkCollections, ih]

theorem count_checked [PatternLanguage] {scope : Scope} {items : List AggregateItem} {name : String}
    {role : Option Role} (member : ⟨name, role, .count, none⟩ ∈ items) :
    (⟨name, role, .count, none⟩ : Checking.Collection) ∈ checkCollections scope items := by
  induction items with
  | nil => cases member
  | cons item rest ih =>
    rcases List.mem_cons.mp member with rfl | later
    · exact List.mem_cons_self
    · obtain ⟨_, _, _, _ | operand⟩ := item <;> exact List.mem_cons_of_mem _ (ih later)

/-- Aggregating gives one row for each key, in the order in which the keys first appear: the key, and
what each item collects over the rows that have the key. Without columns to group by it gives one
row, also where there are no rows, and numbers of rows add up to the number of all rows. -/
theorem aggregate_groups [PatternLanguage] {scope : Scope} {dataset : Node}
    {items : List AggregateItem} {names : List String} {p : Option Position} {input q : Query}
    {env : Env} {d out : Dataset}
    (known : dataset.check scope = .ok (.query input))
    (checked : Node.check scope ⟨.clause dataset (.aggregate items names), p⟩ = .ok (.query q))
    (held : input.run env = .ok d) (exact : d.Exact input.layout) (run : q.run env = .ok out) :
    ∃ columns, (checkCollections input.layout.scope items).mapM Checking.collection = .ok columns ∧
      out.layout.names = names ++ items.map AggregateItem.name ∧
      List.Forall₂ (d.IsGroupRow out.layout names (columns.map (·.2))) (groupKeys names d.rows)
        out.rows ∧
      (names = [] → out.rows.length = 1) ∧
      ∀ name role, ⟨name, role, .count, none⟩ ∈ items → ∃ counts : List Int64,
        out.rows.map (·.get? name) = counts.map (fun n => some (.integer n)) ∧
        counts.sum = .ofNat d.rows.length ∧
        (d.rows.length < 2 ^ 63 → (counts.map Int64.toInt).sum = d.rows.length) := by
  obtain ⟨input', aggregated, known', clause, rfl⟩ := clauseNode_query checked
  cases known.symm.trans known'
  obtain ⟨groups, columns, places, plan, placed, steps⟩ := aggregate_plan clause
  have run : aggregated.run env = .ok out := locate_eq_ok_iff.mp run
  rw [steps, held, ok_bind] at run
  obtain ⟨layout, rows⟩ := collectGroups_rows plan placed exact run
  refine ⟨columns, plan.collected, ?_, ?_, ?_, ?_⟩
  · rw [layout, plan.names_eq, item_names plan.collected, checkCollections_names]
  · rw [layout]
    exact rows.imp fun _ _ row => row.1
  · rintro rfl
    exact rows.length_eq.symm
  · intro name role member
    obtain ⟨column, here, counting⟩ := mapM_each plan.collected (count_checked member)
    cases counting
    refine counts_add_up (plainKeys_of_exact plan.found exact) (rows.imp fun key r ⟨_, cells⟩ => ?_)
    obtain ⟨v, collected, cell⟩ := cells _ here
    rw [cell, ← Except.ok.inj ((collect_count _).symm.trans collected)]

namespace Visits

def columns : Structure :=
  ⟨[⟨"id", .integer, .identifier⟩, ⟨"city", .string, .measure⟩, ⟨"stay", .integer, .measure⟩],
    by decide⟩

/-- Visits to two cities, one of which has no name. -/
def visits : Dataset := ⟨columns, [⟨columns, [.integer 1, .string "Bonn", .integer 3]⟩,
  ⟨columns, [.integer 2, .null, .integer 4]⟩, ⟨columns, [.integer 3, .string "Bonn", .null]⟩]⟩

/-- The expression `visits[aggr n := count(), longest := max(stay) group by city]`. -/
def byCity : Node :=
  ⟨.clause ⟨.name "visits", none⟩ (.aggregate [⟨"n", none, .count, none⟩,
    ⟨"longest", none, .max, some ⟨.name "stay", none⟩⟩] ["city"]), none⟩

/-- The expression `visits[aggr n := count()]`. -/
def countAll : Node :=
  ⟨.clause ⟨.name "visits", none⟩ (.aggregate [⟨"n", none, .count, none⟩] []), none⟩

def bindings : Bindings := [("visits", .dataset visits)]

def noVisits : Bindings := [("visits", .dataset ⟨columns, []⟩)]

def totalColumns : Structure :=
  ⟨[⟨"city", .string, .identifier⟩, ⟨"n", .integer, .measure⟩, ⟨"longest", .integer, .measure⟩],
    by decide⟩

def totals : Dataset := ⟨totalColumns, [⟨totalColumns, [.string "Bonn", .integer 2, .integer 3]⟩,
  ⟨totalColumns, [.null, .integer 1, .integer 4]⟩]⟩

end Visits

open Visits in
theorem visits_counted_by_city :
    ∃ q, byCity.check bindings.scope = .ok (.query q) ∧ q.run bindings.env = .ok totals ∧
      groupKeys ["city"] visits.rows = [[.string "Bonn"], [.null]] ∧
      ∃ counts : List Int64,
        totals.rows.map (·.get? "n") = counts.map (fun n => some (.integer n)) ∧
        (counts.map Int64.toInt).sum = 3 := by
  have known : Node.check bindings.scope ⟨.name "visits", none⟩ =
      .ok (.query (Query.locate none ⟨columns, Checking.boundDataset "visits" columns⟩)) := rfl
  have exact : visits.Exact columns := by
    simp [Dataset.Exact, visits, columns, Value.isPlain, Value.type?]
  have resolved : (do (← byCity.check bindings.scope).resolve bindings.env) =
      .ok (.dataset totals) := by with_unfolding_all rfl
  obtain ⟨q, checked⟩ : ∃ q, byCity.check bindings.scope = .ok (.query q) := ⟨_, rfl⟩
  rw [checked, ok_bind] at resolved
  obtain ⟨out, run, same⟩ := bind_ok resolved
  cases pure_ok same
  obtain ⟨_, -, -, -, -, counted⟩ := aggregate_groups known checked rfl exact run
  obtain ⟨counts, cells, -, total⟩ := counted "n" none List.mem_cons_self
  exact ⟨q, checked, run, by with_unfolding_all rfl, counts, cells, total (by decide)⟩

open Visits in
/-- Without visits, `visits[aggr n := count()]` gives one row. -/
example : (do (← countAll.check noVisits.scope).resolve noVisits.env) =
    .ok (.dataset ⟨.single ⟨"n", .integer, .measure⟩,
      [⟨.single ⟨"n", .integer, .measure⟩, [.integer 0]⟩]⟩) := rfl

end DatasetScript
