import DatasetScript.Proofs.ScalarSoundness
/-!
# Soundness of clauses and unions

Clauses and unions give sound queries when what they are applied to is sound: every row that they
lay out keeps to the types of its columns. Main statements: `Query.calculate_sound`,
`Query.aggregate_sound` and `Query.union_sound`.
-/

namespace DatasetScript

variable {inner : Dataset → Prop} {scope : Scope} {input : Query} {s : Structure} {r : Row}

/-! ### Cells of rows -/

/-- The cell at the place of a column suits the column. -/
theorem cell_suits {i : Nat} {c : Component} (suit : CellsSuit inner r.cells s.components)
    (here : s.components[i]? = some c) : (r.cell i).Suits inner c.type := by
  obtain ⟨v, held, suits⟩ := cell_at suit here
  rwa [Row.cell, held]

theorem pick_suits {names : List String} {columns : List Component} {places : List Nat}
    (suit : CellsSuit inner r.cells s.components) (found : names.mapM s.column = .ok columns)
    (placed : names.mapM s.place = .ok places) : CellsSuit inner (r.pick places) columns := by
  induction names generalizing columns places with
  | nil =>
    cases pure_ok found
    cases pure_ok placed
    exact .nil
  | cons name rest ih =>
    obtain ⟨c, columns, column, later, rfl⟩ := mapM_cons_ok found
    obtain ⟨i, places, place, others, rfl⟩ := mapM_cons_ok placed
    obtain ⟨j, same, here⟩ := Structure.exists_indexOf? (Structure.column_ok column)
    cases (Structure.place_ok place).symm.trans same
    exact .cons (cell_suits suit here) (ih later others)

theorem relaid_suits {target : Structure} (suit : CellsSuit inner r.cells s.components)
    (compatible : s.isCompatibleWith target) :
    CellsSuit inner (r.pick (Query.placesOf target s)) target.components := by
  unfold Row.pick Query.placesOf Structure.names
  rw [List.map_map, List.map_map]
  refine List.forall₂_map_left_iff.mpr (List.forall₂_same.mpr fun c member => ?_)
  have found : s.get? c.name = some c := by
    rw [Structure.get?_eq_of_isCompatibleWith compatible]
    exact Structure.get?_eq_some_iff.mpr ⟨member, rfl⟩
  obtain ⟨i, place, here⟩ := Structure.exists_indexOf? found
  have suits := cell_suits suit here
  simpa [place] using suits

/-! ### Types of aggregates -/

/-- The types that an aggregate function can have on an operand. -/
def AggregateFunction.Gives (operand : Option Expr) (t : ScalarType) : AggregateFunction → Prop
  | .count => t = .integer
  | .sum => t = .integer ∨ t = .number
  | .avg => t = .number
  | .min | .max => ∃ e, operand = some e ∧ ∀ u ∈ e.type?, u = .scalar t

theorem scalar_of_isNumeric {t : DataType} (numeric : t.isNumeric) :
    t = .integer ∨ t = .number := by
  rcases t with ⟨_ | _ | _ | _⟩ | _ <;> simp_all [DataType.isNumeric]

/-- The least and the greatest value have the type of the operand. -/
theorem leastOrGreatest_gives {function : AggregateFunction} {e : Expr} {t : DataType}
    (least : function = .min ∨ function = .max)
    (typed : e.type? = none ∧ t = .integer ∨ e.type? = some t ∧ t ≠ .dataset) :
    ∃ u, t = .scalar u ∧ function.Gives (some e) u := by
  rcases typed with ⟨untyped, rfl⟩ | ⟨typed, single⟩
  · rcases least with rfl | rfl <;> exact ⟨.integer, rfl, e, rfl, by simp [untyped]⟩
  · cases t with
    | dataset => contradiction
    | scalar t => rcases least with rfl | rfl <;> exact ⟨t, rfl, e, rfl, by simp [typed]⟩

theorem ofOperand_gives (function : AggregateFunction) (operand : Option Expr) :
    Yields (fun a => a.operand = operand ∧ ∃ t, a.type = .scalar t ∧ a.function.Gives a.operand t)
      (Aggregation.ofOperand function operand) := by
  unfold Aggregation.ofOperand
  dsimp only
  split
  · rename_i count
    subst count
    exact .ok ⟨rfl, .integer, rfl, rfl⟩
  split
  · exact .error _
  rename_i given
  obtain ⟨e, rfl⟩ := Option.ne_none_iff_exists'.mp (by simpa using given)
  rw [Option.bind_some]
  split
  · contradiction
  · exact .ok ⟨rfl, .integer, rfl, .inl rfl⟩
  · split
    · rename_i numeric
      rcases scalar_of_isNumeric numeric with rfl | rfl
      · exact .ok ⟨rfl, .integer, rfl, .inl rfl⟩
      · exact .ok ⟨rfl, .number, rfl, .inr rfl⟩
    · exact .error _
  · exact .ok ⟨rfl, .number, rfl, rfl⟩
  · split
    · exact .ok ⟨rfl, .number, rfl, rfl⟩
    · exact .error _
  · exact .ok ⟨rfl, leastOrGreatest_gives (.inl rfl) (.inl ⟨‹_›, rfl⟩)⟩
  · exact .ok ⟨rfl, leastOrGreatest_gives (.inr rfl) (.inl ⟨‹_›, rfl⟩)⟩
  · split
    · exact .error _
    · exact .ok ⟨rfl, leastOrGreatest_gives (.inl rfl) (.inr ⟨‹_›, ‹_›⟩)⟩
  · split
    · exact .error _
    · exact .ok ⟨rfl, leastOrGreatest_gives (.inr rfl) (.inr ⟨‹_›, ‹_›⟩)⟩

theorem extreme_mem (order : Ordering) (values : List Value) :
    Aggregation.extreme order values = .null ∨ Aggregation.extreme order values ∈ values := by
  cases values with
  | nil => exact .inl rfl
  | cons v rest =>
    have folded (best : Value) : rest.foldl (fun best w =>
        if w.compare? best = some order then w else best) best ∈ best :: rest := by
      induction rest generalizing best with
      | nil => exact List.mem_cons_self
      | cons w rest ih =>
        rw [List.foldl_cons]
        split
        · exact List.mem_cons_of_mem best (ih w)
        · rcases List.mem_cons.mp (ih best) with same | later
          · rw [same]
            exact List.mem_cons_self
          · exact List.mem_cons_of_mem best (List.mem_cons_of_mem w later)
    exact .inr (folded v)

theorem summary_hasType {function : AggregateFunction} {operand : Option Expr} {t : ScalarType}
    {values : List Value} (gives : function.Gives operand t)
    (typed : ∀ v ∈ values, ∀ e ∈ operand, (∀ u ∈ e.type?, u = .scalar t) →
      v.HasType inner (some (.scalar t))) :
    (Aggregation.summary function (.scalar t) values).HasType inner (some (.scalar t)) := by
  have extreme (order : Ordering) (given : ∃ e, operand = some e ∧ ∀ u ∈ e.type?, u = .scalar t) :
      (Aggregation.extreme order values).HasType inner (some (.scalar t)) := by
    obtain ⟨e, rfl, only⟩ := given
    rcases extreme_mem order values with null | member
    · exact .inl null
    · exact typed _ member e rfl only
  cases function with
  | count =>
    cases gives
    exact .inr rfl
  | sum =>
    unfold Aggregation.summary
    rcases gives with rfl | rfl
    · dsimp only
      repeat' split
      · exact .inl rfl
      · exact .inl rfl
      · exact .inr rfl
      · contradiction
    · dsimp only
      split
      · exact .inl rfl
      · exact .inr rfl
  | avg =>
    cases gives
    unfold Aggregation.summary
    dsimp only
    split
    · exact .inl rfl
    · exact .inr rfl
  | min => exact extreme .lt gives
  | max => exact extreme .gt gives

/-- Where an expression can only have one scalar type, its values have that type. -/
theorem resolve_hasType {e : Expr} {env : Env} {v : Value} {t : ScalarType}
    (h : e.resolve env = .ok v) (only : ∀ u ∈ e.type?, u = .scalar t) :
    v.HasType inner (some (.scalar t)) := by
  cases e with
  | null =>
    cases h
    exact .inl rfl
  | scalar u f =>
    obtain ⟨payload, -, h⟩ := bind_ok h
    rw [pure_ok h]
    cases only (.scalar u) rfl
    exact ofOption_hasType _ payload
  | query q => cases only .dataset rfl

theorem collect_hasType {a : Aggregation} {rows : List Row} {v : Value} {t : ScalarType}
    (same : a.type = .scalar t) (gives : a.function.Gives a.operand t)
    (h : a.collect rows = .ok v) : v.HasType inner (some (.scalar t)) := by
  obtain ⟨values, resolved, h⟩ := bind_ok h
  rw [pure_ok h, same]
  refine summary_hasType gives fun w member e given only => ?_
  obtain ⟨r, -, atRow⟩ := mapM_member resolved (List.mem_filter.mp member).1
  unfold Aggregation.valueAt at atRow
  rw [show a.operand = some e from given] at atRow
  exact resolve_hasType atRow only

/-! ### Rows of groups -/

theorem addToGroup_members {α : Type} {key : List Value} {a b : α}
    {groups : List (List Value × List α)} {g : List Value × List α}
    (member : g ∈ addToGroup key a groups) (here : b ∈ g.2) : b = a ∨ ∃ h ∈ groups, b ∈ h.2 := by
  induction groups with
  | nil =>
    rw [List.mem_singleton.mp member] at here
    exact .inl (List.mem_singleton.mp here)
  | cons first rest ih =>
    unfold addToGroup at member
    split at member <;> rcases List.mem_cons.mp member with rfl | later
    · rcases List.mem_append.mp here with old | new
      · exact .inr ⟨first, List.mem_cons_self, old⟩
      · exact .inl (List.mem_singleton.mp new)
    · exact .inr ⟨g, List.mem_cons_of_mem first later, here⟩
    · exact .inr ⟨first, List.mem_cons_self, here⟩
    · rcases ih later with same | ⟨h, inRest, old⟩
      · exact .inl same
      · exact .inr ⟨h, List.mem_cons_of_mem first inRest, old⟩

theorem groupByKey_members {α : Type} {key : α → List Value} {items : List α} {b : α}
    {g : List Value × List α} (member : g ∈ groupByKey key items) (here : b ∈ g.2) : b ∈ items := by
  have folded (groups : List (List Value × List α))
      (member : g ∈ items.foldl (fun groups a => addToGroup (key a) a groups) groups) :
      b ∈ items ∨ ∃ h ∈ groups, b ∈ h.2 := by
    clear * - member here
    induction items generalizing groups with
    | nil => exact .inr ⟨g, member, here⟩
    | cons a rest ih =>
      rw [List.foldl_cons] at member
      rcases ih _ member with later | ⟨h, inGroups, old⟩
      · exact .inl (List.mem_cons_of_mem a later)
      · rcases addToGroup_members inGroups old with rfl | before
        · exact .inl List.mem_cons_self
        · exact .inr before
  rcases folded [] member with found | ⟨_, absent, -⟩
  · exact found
  · cases absent

theorem groupsOf_members {carries : Bool} {key : Row → List Value} {rows g : List Row}
    (member : g ∈ Query.groupsOf carries key rows) (here : r ∈ g) : r ∈ rows := by
  unfold Query.groupsOf at member
  split at member
  · split at member
    · cases member
    · rw [List.mem_singleton.mp member] at here
      cases here
  · obtain ⟨group, inGroups, rfl⟩ := List.mem_map.mp member
    exact groupByKey_members inGroups here

/-! ### Rows that are laid out -/

variable [PatternLanguage]

theorem layRows_safe {rows : List (List Value)}
    (suit : ∀ cells ∈ rows, CellsSuit inner cells s.components) :
    Safe (fun d => d.layout = s ∧ d.WellTyped inner) (Query.layRows s rows) := by
  rw [layRows_of_width fun cells member => (suit cells member).length_eq]
  refine ⟨rfl, fun r member => ?_⟩
  obtain ⟨cells, here, rfl⟩ := List.mem_map.mp member
  exact ⟨rfl, suit cells here⟩

/-! ### Filtering, renaming, projecting -/

theorem keepRows_safe {predicate : Formula .boolean} {rows : List Row}
    (held : ∀ r ∈ rows, r.env.Matches inner scope) (sound : predicate.Sound inner scope) :
    Safe (fun kept => ∀ r ∈ kept, r ∈ rows) (Query.keepRows predicate rows) := by
  induction rows with
  | nil => exact Safe.pure nofun
  | cons r rest ih =>
    refine (sound r.env (held r List.mem_cons_self)).bind fun keep _ => ?_
    refine (ih fun t member => held t (List.mem_cons_of_mem r member)).bind fun kept within => ?_
    refine .pure fun t member => ?_
    split at member
    · rcases List.mem_cons.mp member with rfl | later
      · exact List.mem_cons_self
      · exact List.mem_cons_of_mem r (within t later)
    · exact List.mem_cons_of_mem r (within t member)

theorem Query.filter_sound {predicate : Formula .boolean} (hi : input.Sound inner scope)
    (sound : predicate.Sound inner input.layout.scope) :
    (input.filter predicate).Sound inner scope := by
  intro env held
  refine (hi env held).bind fun d ⟨own, typed⟩ => ?_
  have rows : ∀ r ∈ d.rows, r.env.Matches inner input.layout.scope := fun r member => by
    rw [← own]
    exact matches_row (typed r member).1 (typed r member).2
  refine (keepRows_safe rows sound).bind fun kept within => .pure ⟨rfl, fun r member => ?_⟩
  rw [← own]
  exact typed r (within r member)

theorem Query.rename_sound (renames : List (String × String)) (hi : input.Sound inner scope) :
    Yields (Query.Sound inner scope) (input.rename renames) := by
  refine Yields.bind_eq fun _ _ => Yields.bind_eq fun layout made => .ok fun env held => ?_
  refine (hi env held).bind fun d ⟨own, typed⟩ => layRows_safe fun cells member => ?_
  obtain ⟨r, here, rfl⟩ := List.mem_map.mp member
  -- a column keeps its type under its new name
  rw [Structure.ofComponents_ok made, ← own]
  exact List.forall₂_map_right_iff.mpr (typed r here).2

theorem Query.project_sound (names : List String) (hi : input.Sound inner scope) :
    Yields (Query.Sound inner scope) (input.project names) := by
  refine Yields.bind_eq fun columns found => Yields.bind_eq fun places placed => ?_
  refine Yields.bind_eq fun layout made => .ok fun env held => ?_
  refine (hi env held).bind fun d ⟨own, typed⟩ => layRows_safe fun cells member => ?_
  obtain ⟨r, here, rfl⟩ := List.mem_map.mp member
  rw [← own] at found placed
  rw [Structure.ofComponents_ok made]
  exact pick_suits (typed r here).2 found placed

/-! ### Calculating -/

/-- A column is passed on with its type, or computed with the type that it has. -/
def Query.Column.Sound (inner : Dataset → Prop) (s : Structure) (c : Query.Column) : Prop :=
  match c.source with
  | .place i => ∃ d, s.components[i]? = some d ∧ d.type = c.component.type
  | .computed e =>
    e.Sound inner s.scope ∧ ∃ t, e.type? = some (.scalar t) ∧ c.component.type = .scalar t

theorem ownColumns_sound {c : Query.Column} (member : c ∈ Query.ownColumns s) :
    c.Sound inner s := by
  obtain ⟨i, bound, rfl⟩ := List.mem_mapIdx.mp member
  exact ⟨s.components[i], List.getElem?_eq_getElem bound, rfl⟩

theorem putColumn_sound {roles : List (String × Role)} {columns : List Query.Column} {name : String}
    {t : ScalarType} {e : Expr} (all : ∀ c ∈ columns, c.Sound inner s)
    (sound : e.Sound inner s.scope) (typed : e.type? = some (.scalar t)) :
    ∀ c ∈ Query.putColumn roles columns name (.scalar t) e, c.Sound inner s := by
  induction columns with
  | nil =>
    intro c member
    rw [List.mem_singleton.mp member]
    exact ⟨sound, t, typed, rfl⟩
  | cons first rest ih =>
    intro c member
    unfold Query.putColumn at member
    split at member
    · rcases List.mem_cons.mp member with rfl | later
      · exact ⟨sound, t, typed, rfl⟩
      · exact all c (List.mem_cons_of_mem first later)
    · rcases List.mem_cons.mp member with rfl | later
      · exact all c List.mem_cons_self
      · exact ih (fun d here => all d (List.mem_cons_of_mem first here)) c later

theorem putColumns_sound {roles : List (String × Role)} {columns : List Query.Column}
    {items : List (String × Expr)} (all : ∀ c ∈ columns, c.Sound inner s)
    (sound : ∀ item ∈ items, item.2.Sound inner s.scope) :
    Yields (fun columns => ∀ c ∈ columns, c.Sound inner s) (Query.putColumns roles columns items) := by
  induction items generalizing columns with
  | nil => exact .ok all
  | cons item rest ih =>
    obtain ⟨name, e⟩ := item
    unfold Query.putColumns
    split
    · rename_i t typed
      exact ih (putColumn_sound all (sound _ List.mem_cons_self) typed)
        fun item member => sound item (List.mem_cons_of_mem _ member)
    · exact .error _

theorem cell_safe {c : Query.Column} (sound : c.Sound inner s) (own : r.layout = s)
    (suit : CellsSuit inner r.cells s.components) :
    Safe (fun v => v.Suits inner c.component.type) (c.cell r) := by
  obtain ⟨component, source⟩ := c
  cases source with
  | place i =>
    obtain ⟨d, here, same⟩ := sound
    have suits := cell_suits suit here
    rw [same] at suits
    exact suits
  | computed e =>
    obtain ⟨sound, t, typed, same⟩ := sound
    refine (sound.resolve (matches_row own suit)).bind fun v h => ?_
    rw [typed] at h
    dsimp only at same ⊢
    rw [same, cast_of_hasType h]
    exact suits_of_hasType h

theorem Query.calculate_sound {items : List (String × Expr)} (roles : List (String × Role))
    (hi : input.Sound inner scope) (sound : ∀ item ∈ items, item.2.Sound inner input.layout.scope) :
    Yields (Query.Sound inner scope) (input.calculate items roles) := by
  refine (putColumns_sound (fun _ => ownColumns_sound) sound).bind fun columns all => ?_
  refine Yields.bind_eq fun layout made => .ok fun env held => ?_
  refine (hi env held).bind fun d ⟨own, typed⟩ => ?_
  refine (Safe.mapM_all fun r member => ?_).bind fun rows suit => layRows_safe suit
  obtain ⟨ownRow, suit⟩ := typed r member
  rw [own] at ownRow suit
  refine (Safe.mapM fun c here => cell_safe (all c here) ownRow suit).mono fun cells each => ?_
  rw [Structure.ofComponents_ok made]
  exact List.forall₂_map_right_iff.mpr each.flip

/-! ### Aggregating -/

/-- The operand is sound, and the type is one that the function gives. -/
def Aggregation.Sound (inner : Dataset → Prop) (scope : Scope) (a : Aggregation) : Prop :=
  (∀ e ∈ a.operand, e.Sound inner scope) ∧ ∃ t, a.type = .scalar t ∧ a.function.Gives a.operand t

theorem ofOperand_sound {function : AggregateFunction} {operand : Option Expr}
    (sound : ∀ e ∈ operand, e.Sound inner scope) :
    Yields (Aggregation.Sound inner scope) (Aggregation.ofOperand function operand) := by
  intro a made
  obtain ⟨rfl, gives⟩ := ofOperand_gives function operand a made
  exact ⟨sound, gives⟩

theorem collect_safe {a : Aggregation} {rows : List Row} (sound : a.Sound inner scope)
    (held : ∀ r ∈ rows, r.env.Matches inner scope) :
    Safe (fun v => v.HasType inner (some a.type)) (a.collect rows) := by
  obtain ⟨operand, t, same, gives⟩ := sound
  have values : Safe (fun vs => ∀ v ∈ vs, ∀ e ∈ a.operand, v.HasType inner e.type?)
      (rows.mapM a.valueAt) := by
    refine Safe.mapM_all fun r member => ?_
    unfold Aggregation.valueAt
    split
    · rename_i e given
      refine ((operand e given).resolve (held r member)).mono fun v h e' other => ?_
      cases given.symm.trans other
      exact h
    · rename_i given
      simp [Safe, given]
  refine values.bind fun vs typed => .pure ?_
  rw [same]
  exact summary_hasType gives fun v member e given =>
    hasType_of_only (typed v (List.mem_filter.mp member).1 e given)

/-! ### Grouping -/

/-- A column is aggregated with its type, or carried over with it. -/
def Query.Grouped (inner : Dataset → Prop) (s : Structure)
    (aggregations : List (String × Aggregation)) (c : Component) : Prop :=
  match Assoc.find? aggregations c.name with
  | some a => a.Sound inner s.scope ∧ a.type = c.type
  | none => ∃ d, s.get? c.name = some d ∧ d.type = c.type

theorem groupCell_safe {aggregations : List (String × Aggregation)} {c : Component} {rows : List Row}
    (grouped : Query.Grouped inner s aggregations c)
    (typed : ∀ r ∈ rows, r.layout = s ∧ CellsSuit inner r.cells s.components) :
    Safe (fun v => v.Suits inner c.type) (Query.groupCell aggregations rows c) := by
  unfold Query.Grouped at grouped
  unfold Query.groupCell
  cases found : Assoc.find? aggregations c.name with
  | some a =>
    rw [found] at grouped
    obtain ⟨sound, same⟩ := grouped
    have held : ∀ r ∈ rows, r.env.Matches inner s.scope := fun r member =>
      matches_row (typed r member).1 (typed r member).2
    refine (collect_safe sound held).bind fun v h => ?_
    obtain ⟨-, t, scalar, -⟩ := sound
    rw [scalar] at same h
    change Safe _ (Value.cast c.type v)
    rw [← same, cast_of_hasType h]
    exact suits_of_hasType h
  | none =>
    rw [found] at grouped
    obtain ⟨d, column, same⟩ := grouped
    have suits : Value.Suits inner ((rows.head?.bind (·.get? c.name)).getD .null) c.type := by
      cases rows with
      | nil => exact suits_null _
      | cons r rest =>
        obtain ⟨rfl, suit⟩ := typed r List.mem_cons_self
        obtain ⟨v, held, suits⟩ := get?_of_cells suit column
        rw [same] at suits
        simpa [held] using suits
    obtain ⟨w, cast, suits⟩ := cast_of_suits suits
    change Safe _ (Value.cast c.type _)
    rw [cast]
    exact suits

theorem Query.aggregate_sound {output : Structure} {aggregations : List (String × Aggregation)}
    {key : Row → List Value} (hi : input.Sound inner scope)
    (grouped : ∀ c ∈ output.components, Query.Grouped inner input.layout aggregations c) :
    Yields (Query.Sound inner scope) (input.aggregate output aggregations key) := by
  unfold Query.aggregate
  split
  · exact .error _
  split
  · exact .error _
  refine .ok fun env held => (hi env held).bind fun d ⟨own, typed⟩ => ?_
  refine (Safe.mapM_all fun g member => ?_).bind fun rows suit => layRows_safe suit
  refine (Safe.mapM fun c here => groupCell_safe (grouped c here) fun r inGroup => ?_).mono
    fun cells each => each.flip
  rw [← own]
  exact typed r (groupsOf_members member inGroup)

/-! ### Unions -/

theorem Query.union_sound {operands : List Query} (all : ∀ q ∈ operands, q.Sound inner scope) :
    Yields (Query.Sound inner scope) (Query.union operands) := by
  unfold Query.union
  split
  · exact .error _
  rename_i first rest
  dsimp only
  split
  · exact .error _
  rename_i none_differs
  have compatible : ∀ q ∈ first :: rest, q.layout.isCompatibleWith first.layout := by
    simpa [Query.incompatibleOperand?, List.findIdx?_eq_none_iff] using none_differs
  refine .ok fun env held => ?_
  have parts : Safe (fun parts => ∀ part ∈ parts, ∀ cells ∈ part,
      CellsSuit inner cells first.layout.components)
      ((first :: rest).mapM (Query.relaidRows first.layout env)) := by
    refine Safe.mapM_all fun q member => (all q member env held).bind fun d ⟨own, typed⟩ => ?_
    refine .pure fun cells here => ?_
    obtain ⟨r, inRows, rfl⟩ := List.mem_map.mp here
    rw [← own]
    exact relaid_suits (typed r inRows).2 (own ▸ compatible q member)
  refine parts.bind fun parts suit => layRows_safe fun cells member => ?_
  obtain ⟨part, inParts, here⟩ := List.mem_flatten.mp member
  exact suit part inParts cells here

/-! ### Clauses -/

namespace Checking

theorem calculation_sound {layout : Structure} {c : Calculation}
    (sound : c.operand.Sound inner layout.scope) :
    Checks inner layout.scope (calculation layout c) := by
  refine sound.bind fun e he => ?_
  split
  · split
    · exact typedNull_sound _
    · exact .error _
  · exact .ok he

theorem calculations_sound {layout : Structure} {taken : List String} {items : List Calculation}
    (all : ∀ c ∈ items, c.operand.Sound inner layout.scope) :
    Yields (fun columns => ∀ item ∈ columns, item.2.Sound inner layout.scope)
      (calculations layout taken items) := by
  induction items generalizing taken with
  | nil => exact .ok nofun
  | cons c rest ih =>
    refine (calculation_sound (all c List.mem_cons_self)).bind fun e he => ?_
    split
    · exact .error _
    · refine (ih fun d member => all d (List.mem_cons_of_mem c member)).bind fun columns sound => .ok ?_
      exact List.forall_mem_cons.mpr ⟨he, sound⟩

theorem calculate_sound {items : List Calculation} (hi : input.Sound inner scope)
    (all : ∀ c ∈ items, c.operand.Sound inner input.layout.scope) :
    Yields (Query.Sound inner scope) (calculate input items) :=
  (calculations_sound all).bind fun _ sound => Query.calculate_sound _ hi sound

theorem filter_sound {predicate : Operand} (hi : input.Sound inner scope)
    (sound : predicate.Sound inner input.layout.scope) :
    Yields (Query.Sound inner scope) (filter input predicate) :=
  (formula_sound .boolean sound).bind fun _ hf => .ok (Query.filter_sound hi hf)

theorem rename_sound (items : List RenameItem) (hi : input.Sound inner scope) :
    Yields (Query.Sound inner scope) (rename input items) := by
  unfold rename
  split
  · exact .error _
  · exact Query.rename_sound _ hi

theorem drop_sound (names : List String) (hi : input.Sound inner scope) :
    Yields (Query.Sound inner scope) (drop input names) := by
  unfold drop
  split
  · exact .error _
  · exact Query.project_sound _ hi

theorem collection_sound {c : Collection} (all : ∀ o ∈ c.operand, o.Sound inner scope) :
    Yields (fun column => column.2.Sound inner scope ∧ column.2.type = column.1.type)
      (collection c) := by
  have operand : Yields (fun e? => ∀ e ∈ e?, e.Sound inner scope) (c.operand.mapM Operand.expr) := by
    cases given : c.operand with
    | none => exact .ok nofun
    | some o => exact (all o given).bind fun e he => .ok (by simpa using he)
  exact operand.bind fun _ he =>
    (Yields.locate (ofOperand_sound he)).bind fun a ha => .ok ⟨ha, rfl⟩

/-- Every column of the output is aggregated, or one of the columns that the rows are grouped by. -/
theorem output_grouped {groups : List Component} {columns : List (Component × Aggregation)}
    {output : Structure} (found : ∀ c ∈ groups, s.get? c.name = some c)
    (sound : ∀ column ∈ columns, column.2.Sound inner s.scope ∧ column.2.type = column.1.type)
    (made : output.components =
      (groups.map fun c => { c with role := .identifier }) ++ columns.map (·.1)) :
    ∀ c ∈ output.components,
      Query.Grouped inner s (columns.map fun column => (column.1.name, column.2)) c := by
  intro c member
  unfold Query.Grouped
  split
  · rename_i a here
    obtain ⟨⟨name, _⟩, inColumns, rfl⟩ := Option.map_eq_some_iff.mp here
    obtain ⟨⟨d, a⟩, listed, same⟩ := List.mem_map.mp (List.mem_of_find?_eq_some inColumns)
    have named := List.find?_some inColumns
    cases same
    have inOutput : d ∈ output.components := by
      rw [made]
      exact List.mem_append_right _ (List.mem_map_of_mem (f := Prod.fst) listed)
    cases Structure.eq_of_mem_of_name inOutput member (by simpa using named)
    exact sound _ listed
  · rename_i absent
    rw [made] at member
    rcases List.mem_append.mp member with group | column
    · obtain ⟨d, inGroups, rfl⟩ := List.mem_map.mp group
      exact ⟨d, found d inGroups, rfl⟩
    · obtain ⟨entry, listed, rfl⟩ := List.mem_map.mp column
      refine ((Assoc.find?_eq_none_iff _ _).mp absent ?_).elim
      unfold Assoc.names
      rw [List.map_map]
      exact List.mem_map.mpr ⟨entry, listed, rfl⟩

theorem aggregate_sound {items : List Collection} (groupBy : List String)
    (hi : input.Sound inner scope)
    (all : ∀ c ∈ items, ∀ o ∈ c.operand, Operand.Sound inner input.layout.scope o) :
    Yields (Query.Sound inner scope) (aggregate input items groupBy) := by
  refine Yields.bind_eq fun groups foundGroups => Yields.bind_eq fun columns foundColumns => ?_
  refine Yields.bind_eq fun output made => Yields.bind_eq fun places _ => ?_
  refine Query.aggregate_sound hi (output_grouped ?_ ?_ (Structure.ofComponents_ok made))
  · intro c member
    obtain ⟨name, -, column⟩ := mapM_member foundGroups member
    have found := Structure.column_ok column
    rwa [(Structure.get?_eq_some_iff.mp found).2]
  · intro column member
    obtain ⟨c, here, checked⟩ := mapM_member foundColumns member
    exact collection_sound (all c here) column checked

/-! ### Unions -/

theorem unionCall_sound {args : List Operand} (all : ∀ a ∈ args, a.Sound inner scope) :
    Checks inner scope (unionCall args) := by
  unfold unionCall
  split
  · exact .error _
  rename_i first rest
  refine (query_sound (all first List.mem_cons_self)).bind fun q hq => ?_
  refine Yields.bind_eq fun others found => Yields.bind_eq fun _ _ => ?_
  refine (Query.union_sound ?_).bind fun u hu => .ok hu
  refine List.forall_mem_cons.mpr ⟨hq, fun other member => ?_⟩
  obtain ⟨o, here, made⟩ := mapM_member found member
  exact query_sound (all o (List.mem_cons_of_mem first here)) other made

theorem call_sound (family : FunctionFamily) (function : String) {args : List Operand}
    (all : ∀ a ∈ args, a.Sound inner scope) : Checks inner scope (call family function args) := by
  cases family with
  | string => exact textFunction_sound all function
  | numeric => exact numericFunction_sound all function
  | comparison => exact comparisonFunction_sound all function
  | distance => exact distanceFunction_sound all function
  | set =>
    change Checks inner scope (setFunction function args)
    unfold setFunction
    split
    · exact unionCall_sound all
    · exact .error _

end Checking

end DatasetScript
