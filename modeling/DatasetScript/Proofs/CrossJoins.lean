import DatasetScript.Proofs.JoinPlanning
import DatasetScript.Proofs.Joins
import DatasetScript.Proofs.Regular
/-!
# Cross joins

A cross join qualifies a column name that is taken by the name of the dataset and the mark `#`. As
long as no column has the mark in its name the names that come of this differ, whatever the datasets
are called. Main statements: `qualifiedName_inj` and `planSteps_cross` for the columns,
`joinRows_cross` for the rows, and `cross_join_product` for the expression.
-/

namespace DatasetScript

/-! ### Qualified names -/

/-- The name of a column qualified by the name of its dataset. -/
def qualifiedName (label name : String) : String := label ++ "#" ++ name

/-- Names without the mark that ends a qualifier. -/
def Unmarked (name : String) : Prop := '#' ∉ name.toList

theorem toList_qualifiedName (label name : String) :
    (qualifiedName label name).toList = label.toList ++ '#' :: name.toList := by
  simp [qualifiedName, String.toList_append]

theorem qualifiedName_marked (label name : String) : ¬ Unmarked (qualifiedName label name) := by
  simp [Unmarked, toList_qualifiedName]

/-- What follows the last mark and what precedes it. -/
theorem last_mark {before before' after after' : List Char} (plain : '#' ∉ after)
    (plain' : '#' ∉ after') (same : before ++ '#' :: after = before' ++ '#' :: after') :
    before = before' ∧ after = after' := by
  rcases List.append_eq_append_iff.mp same with ⟨more, rfl, rest⟩ | ⟨more, rfl, rest⟩
  · cases more with
    | nil => exact ⟨(List.append_nil _).symm, (List.cons.inj rest).2⟩
    | cons c more =>
      obtain ⟨-, rfl⟩ := List.cons.inj rest
      simp at plain
  · cases more with
    | nil => exact ⟨List.append_nil _, (List.cons.inj rest).2.symm⟩
    | cons c more =>
      obtain ⟨-, rfl⟩ := List.cons.inj rest
      simp at plain'

/-- A qualified name determines its parts, even where the qualifier has the mark too. -/
theorem qualifiedName_inj {label label' name name' : String} (plain : Unmarked name)
    (plain' : Unmarked name') (same : qualifiedName label name = qualifiedName label' name') :
    label = label' ∧ name = name' := by
  have chars := congrArg String.toList same
  rw [toList_qualifiedName, toList_qualifiedName] at chars
  obtain ⟨labels, names⟩ := last_mark plain plain' chars
  exact ⟨String.toList_inj.mp labels, String.toList_inj.mp names⟩

/-- A column, qualified if its name is taken. -/
def Component.qualified (taken : List String) (label : String) (c : Component) : Component :=
  if c.name ∈ taken then c.rename (qualifiedName label c.name) else c

/-- The columns of several datasets, those qualified whose name an earlier dataset has. -/
def qualifiedColumns (taken : List String) : List (String × Structure) → List Component
  | [] => []
  | (label, s) :: rest =>
    s.components.map (Component.qualified taken label) ++ qualifiedColumns (taken ++ s.names) rest

section

variable {taken taken' labels : List String} {label : String} {c d : Component}

theorem qualified_cases (taken : List String) (label : String) (c : Component) :
    (c.qualified taken label).name = c.name ∧ c.name ∉ taken ∨
      (c.qualified taken label).name = qualifiedName label c.name := by
  unfold Component.qualified
  split
  · exact .inr rfl
  · rename_i new
    exact .inl ⟨rfl, new⟩

theorem qualified_new (new : c.name ∉ taken) : c.qualified taken label = c := if_neg new

theorem qualified_congr (same : c.name ∈ taken ↔ c.name ∈ taken') :
    c.qualified taken label = c.qualified taken' label := by
  simp only [Component.qualified, same]

theorem qualified_inj (plain : Unmarked c.name) (plain' : Unmarked d.name)
    (same : (c.qualified taken label).name = (d.qualified taken label).name) : c.name = d.name := by
  rcases qualified_cases taken label c with ⟨own, -⟩ | own <;>
    rcases qualified_cases taken label d with ⟨other, -⟩ | other <;> rw [own, other] at same
  · exact same
  · exact (qualifiedName_marked _ _ (same ▸ plain)).elim
  · exact (qualifiedName_marked _ _ (same ▸ plain')).elim
  · exact (qualifiedName_inj plain plain' same).2

end

/-! ### Columns -/

theorem appendColumns_cross {label : String} {joined columns : List Component}
    (distinct : (columns.map Component.name).Nodup) (plain : ∀ c ∈ columns, Unmarked c.name) :
    JoinPlan.appendColumns .cross [] label joined columns =
      .ok (joined ++ columns.map (Component.qualified (joined.map Component.name) label)) := by
  induction columns generalizing joined with
  | nil => simp [JoinPlan.appendColumns]
  | cons c rest ih =>
    obtain ⟨different, distinct⟩ := List.nodup_cons.mp distinct
    obtain ⟨-, plain⟩ := List.forall_mem_cons.mp plain
    have first : JoinPlan.appendColumns .cross [] label joined (c :: rest) =
        JoinPlan.appendColumns .cross [] label
          (joined ++ [c.qualified (joined.map Component.name) label]) rest := by
      conv_lhs => unfold JoinPlan.appendColumns
      unfold Component.qualified
      rw [if_neg List.not_mem_nil, if_pos rfl]
      split <;> rfl
    -- the names of the other columns are taken as before
    have others : ∀ d ∈ rest, d.qualified
        ((joined ++ [c.qualified (joined.map Component.name) label]).map Component.name) label =
        d.qualified (joined.map Component.name) label := by
      intro d member
      refine qualified_congr ?_
      rw [List.map_append, List.mem_append, List.map_singleton, List.mem_singleton]
      refine or_iff_left fun same => ?_
      rcases qualified_cases (joined.map Component.name) label c with ⟨own, -⟩ | own <;>
        rw [own] at same
      · exact different (List.mem_map.mpr ⟨d, member, same⟩)
      · exact qualifiedName_marked _ _ (same ▸ plain d member)
    rw [first, ih distinct plain, List.map_congr_left others, List.append_assoc]
    rfl

/-- The names in a structure of joined columns: those without mark are the ones that are taken, the
others are qualified by the datasets joined so far. -/
structure Qualified (taken labels : List String) (s : Structure) : Prop where
  unmarked : ∀ name, Unmarked name → (name ∈ s.names ↔ name ∈ taken)
  marked : ∀ name ∈ s.names, ¬ Unmarked name →
    ∃ label ∈ labels, ∃ column, Unmarked column ∧ name = qualifiedName label column

section

variable {taken labels : List String} {label : String} {s t u : Structure}

theorem qualified_first (plain : ∀ name ∈ s.names, Unmarked name) : Qualified s.names labels s :=
  ⟨fun _ _ => Iff.rfl, fun name member marked => (marked (plain name member)).elim⟩

/-- The columns of the next dataset differ from each other and from those before. -/
theorem exists_qualified (so_far : Qualified taken labels s) (new : label ∉ labels)
    (plain : ∀ name ∈ t.names, Unmarked name) :
    ∃ u : Structure,
      u.components = s.components ++ t.components.map (Component.qualified s.names label) := by
  have plain : ∀ c ∈ t.components, Unmarked c.name := List.forall_mem_map.mp plain
  have distinct : ((s.components ++ t.components.map (Component.qualified s.names label)).map
      Component.name).Nodup := by
    rw [List.map_append, List.map_map, List.nodup_append]
    refine ⟨s.nodup, ?_, ?_⟩
    · refine (List.Nodup.of_map _ t.nodup).map_on fun c member d member' same => ?_
      exact Structure.eq_of_mem_of_name member member'
        (qualified_inj (plain c member) (plain d member') same)
    · rintro name known other member rfl
      obtain ⟨c, here, same⟩ := List.mem_map.mp member
      rcases qualified_cases s.names label c with ⟨own, free⟩ | own <;>
        rw [Function.comp_apply, own] at same
      · exact free (same ▸ known)
      · -- a qualified name that is taken comes of a dataset of the same name
        obtain ⟨label', earlier, column, unmarked, parts⟩ := so_far.marked name known
          (same ▸ qualifiedName_marked label c.name)
        obtain ⟨rfl, -⟩ := qualifiedName_inj (plain c here) unmarked (same.trans parts)
        exact new earlier
  exact ⟨⟨_, distinct⟩, rfl⟩

theorem qualified_step (so_far : Qualified taken labels s) (plain : ∀ name ∈ t.names, Unmarked name)
    (columns :
      u.components = s.components ++ t.components.map (Component.qualified s.names label)) :
    Qualified (taken ++ t.names) (labels ++ [label]) u := by
  have known (name : String) : name ∈ u.names ↔
      name ∈ s.names ∨ ∃ c ∈ t.components, (c.qualified s.names label).name = name := by
    simp only [Structure.names, columns, List.map_append, List.mem_append, List.mem_map,
      List.map_map, Function.comp_apply]
  constructor
  · intro name unmarked
    rw [known, List.mem_append, so_far.unmarked name unmarked]
    constructor
    · rintro (earlier | ⟨c, here, rfl⟩)
      · exact .inl earlier
      · rcases qualified_cases s.names label c with ⟨own, -⟩ | own <;> rw [own] at unmarked ⊢
        · exact .inr (List.mem_map_of_mem here)
        · exact (qualifiedName_marked _ _ unmarked).elim
    · rintro (earlier | later)
      · exact .inl earlier
      · obtain ⟨c, here, rfl⟩ := List.mem_map.mp later
        by_cases free : c.name ∈ s.names
        · exact .inl ((so_far.unmarked _ unmarked).mp free)
        · exact .inr ⟨c, here, by rw [qualified_new free]⟩
  · intro name member marked
    rcases (known name).mp member with earlier | ⟨c, here, rfl⟩
    · obtain ⟨label', earlier, parts⟩ := so_far.marked name earlier marked
      exact ⟨label', List.mem_append_left _ earlier, parts⟩
    · have unmarked := plain c.name (List.mem_map_of_mem here)
      rcases qualified_cases s.names label c with ⟨own, -⟩ | own
      · exact (marked (own ▸ unmarked)).elim
      · exact ⟨label, List.mem_append_right _ List.mem_cons_self, c.name, unmarked, own⟩

theorem qualified_columns (so_far : Qualified taken labels s)
    (plain : ∀ name ∈ t.names, Unmarked name) :
    t.components.map (Component.qualified s.names label) =
      t.components.map (Component.qualified taken label) :=
  List.map_congr_left fun c member =>
    qualified_congr (so_far.unmarked c.name (plain c.name (List.mem_map_of_mem member)))

end

/-- Every plan of a cross join is made, with the columns of all datasets. -/
theorem planSteps_cross {taken labels : List String} {joined : Structure}
    {rest : List (String × Structure)} (so_far : Qualified taken labels joined)
    (plain : ∀ o ∈ rest, ∀ name ∈ o.2.names, Unmarked name)
    (distinct : (labels ++ rest.map (·.1)).Nodup) :
    ∃ steps last, JoinPlan.planSteps .cross [] joined rest = .ok (steps, last) ∧
      last.components = joined.components ++ qualifiedColumns taken rest := by
  induction rest generalizing taken labels joined with
  | nil => exact ⟨[], joined, rfl, (List.append_nil _).symm⟩
  | cons o rest ih =>
    obtain ⟨label, t⟩ := o
    obtain ⟨plainNext, plain⟩ := List.forall_mem_cons.mp plain
    rw [List.map_cons, List.append_cons] at distinct
    have new : label ∉ labels := fun earlier =>
      List.disjoint_of_nodup_append (List.Nodup.of_append_left distinct) earlier List.mem_cons_self
    obtain ⟨next, columns⟩ := exists_qualified so_far new plainNext
    obtain ⟨step, places⟩ : ∃ step, StepOf [] joined t step := exists_stepOf nofun nofun
    have appended : JoinPlan.appendColumns .cross [] label joined.components t.components =
        .ok next.components := by
      rw [columns]
      exact appendColumns_cross t.nodup (List.forall_mem_map.mp plainNext)
    obtain ⟨steps, last, planned, all⟩ :=
      ih (qualified_step so_far plainNext columns) plain distinct
    refine ⟨step :: steps, last, planSteps_of_step appended places planned, ?_⟩
    rw [all, columns, qualified_columns so_far plainNext, List.append_assoc]
    rfl

theorem exists_crossPlan {o : String × Structure} {rest : List (String × Structure)}
    (keys : List Component) (plain : ∀ o' ∈ o :: rest, ∀ name ∈ o'.2.names, Unmarked name)
    (distinct : ((o :: rest).map (·.1)).Nodup) :
    ∃ steps last, JoinPlan.ofOperands .cross (o :: rest) keys = .ok ⟨.cross, steps, last⟩ ∧
      JoinPlan.planSteps .cross [] o.2 rest = .ok (steps, last) ∧
      last.components = qualifiedColumns [] (o :: rest) := by
  obtain ⟨plainFirst, plainRest⟩ := List.forall_mem_cons.mp plain
  have labels : ([o.1] ++ rest.map (·.1)).Nodup := distinct
  obtain ⟨steps, last, planned, columns⟩ :=
    planSteps_cross (qualified_first plainFirst) plainRest labels
  have own : o.2.components.map (Component.qualified [] o.1) = o.2.components :=
    (List.map_congr_left fun c _ => qualified_new List.not_mem_nil).trans (List.map_id _)
  have no_keys : (o :: rest).forM (fun o => JoinPlan.checkKeysOf [] o.1 o.2) = .ok () :=
    forM_of_forall fun _ _ => rfl
  refine ⟨steps, last, ?_, planned, ?_⟩
  · unfold JoinPlan.ofOperands
    dsimp only
    rw [if_pos rfl, no_keys, ok_bind, List.map_nil, planned]
    rfl
  · rw [columns, qualifiedColumns, own]
    rfl

/-! ### Rows -/

theorem choices_map {α β : Type} (f : α → β) (lists : List (List α)) :
    choices (lists.map (List.map f)) = (choices lists).map (List.map f) := by
  induction lists with
  | nil => rfl
  | cons first rest ih =>
    simp only [List.map_cons, choices, ih, List.flatMap_map, List.map_flatMap, List.map_map]
    rfl

/-- Rows that have a cell for every column of their structures. -/
def Widths (operands : List (String × Structure)) (inputs : List (List (List Value))) : Prop :=
  List.Forall₂ (fun o rows => ∀ cells ∈ rows, cells.length = o.2.size) operands inputs

section

variable {joined last layout : Structure} {step : JoinStep} {steps : List JoinStep}
  {operands : List (String × Structure)} {inputs : List (List (List Value))}
  {left right : List (List Value)}

theorem combine_cross (planned : StepOf [] joined layout step) {cells : List Value}
    (width : cells.length = layout.size) (l : List Value) :
    JoinPlan.combine step l cells = l ++ cells := by
  have others : Row.others [] ⟨layout, cells⟩ = cells := by
    rw [others_eq]
    simpa using List.map_snd_zip (Nat.le_of_eq width)
  rw [JoinPlan.combine, planned.appended, cellsAt_others width, others]

theorem joinStep_cross (planned : StepOf [] joined layout step)
    (width : ∀ cells ∈ right, cells.length = layout.size) :
    JoinPlan.joinStep .cross step left right = left.flatMap fun l => right.map (l ++ ·) := by
  unfold JoinPlan.joinStep
  rw [if_pos rfl]
  congr 1
  funext l
  exact List.map_congr_left fun cells member => combine_cross planned (width cells member) l

/-- Every row joined so far is followed by one row of each of the others, later ones varying
faster. -/
theorem joinRows_cross (planned : JoinPlan.planSteps .cross [] joined operands = .ok (steps, last))
    (widths : Widths operands inputs) :
    JoinPlan.joinRows .cross left (steps.zip inputs) =
      left.flatMap fun l => (choices inputs).map fun rows => l ++ rows.flatten := by
  induction widths generalizing joined steps left with
  | nil =>
    cases planned
    simp [JoinPlan.joinRows, choices]
  | @cons o right operands inputs width _ ih =>
    obtain ⟨next, step, later, -, places, plannedRest, rfl⟩ := planSteps_cons planned
    rw [List.zip_cons_cons, JoinPlan.joinRows, joinStep_cross places width, ih plannedRest,
      List.flatMap_assoc]
    congr 1
    funext l
    simp [choices, List.flatMap_map, List.map_flatMap, Function.comp_def]

theorem execute_cross {o : String × Structure}
    (planned : JoinPlan.planSteps .cross [] joined operands = .ok (steps, last))
    (widths : Widths (o :: operands) inputs) :
    JoinPlan.execute ⟨.cross, steps, last⟩ inputs = (choices inputs).map List.flatten := by
  cases widths with
  | @cons _ first _ rest _ widths =>
    refine (joinRows_cross planned widths).trans ?_
    simp [choices, List.map_flatMap, Function.comp_def]

theorem choice_width (taken : List String) (widths : Widths operands inputs) :
    ∀ rows ∈ choices inputs, rows.flatten.length = (qualifiedColumns taken operands).length := by
  induction widths generalizing taken with
  | nil =>
    intro rows member
    rw [List.mem_singleton.mp member]
    rfl
  | @cons o first operands inputs width _ ih =>
    intro rows member
    obtain ⟨cells, here, member⟩ := List.mem_flatMap.mp member
    obtain ⟨rest, later, rfl⟩ := List.mem_map.mp member
    rw [List.flatten_cons, List.length_append, ih (taken ++ o.2.names) rest later, width cells here]
    simp [qualifiedColumns, Structure.size]

end

/-! ### Queries -/

/-- The rows of a cross join of datasets, laid out by a structure. -/
def crossRows (layout : Structure) (datasets : List Dataset) : List Row :=
  (choices (datasets.map Dataset.rows)).map fun rows => ⟨layout, rows.flatMap Row.cells⟩

theorem crossRows_eq (layout : Structure) (datasets : List Dataset) :
    crossRows layout datasets =
      ((choices (datasets.map fun d => d.rows.map Row.cells)).map List.flatten).map
        (Row.mk layout) := by
  have cells : (datasets.map fun d => d.rows.map Row.cells) =
      (datasets.map Dataset.rows).map (List.map Row.cells) := List.map_map.symm
  rw [cells, choices_map, List.map_map, List.map_map]
  rfl

/-- A cross join of queries can be made, and gives a row for every choice of one row each. -/
theorem exists_crossJoin {operands : List (String × Query)} (keys : List Component)
    (some_operand : operands ≠ []) (distinct : (operands.map (·.1)).Nodup)
    (plain : ∀ o ∈ operands, ∀ name ∈ o.2.layout.names, Unmarked name) :
    ∃ q, Query.join .cross operands keys = .ok q ∧
      q.layout.components = qualifiedColumns [] (operands.map fun o => (o.1, o.2.layout)) ∧
      ∀ env datasets, List.Forall₂ (fun o d => o.2.run env = .ok d ∧
        ∀ r ∈ d.rows, r.cells.length = o.2.layout.size) operands datasets →
        q.run env = .ok ⟨q.layout, crossRows q.layout datasets⟩ := by
  cases operands with
  | nil => contradiction
  | cons first rest =>
    have plain : ∀ o ∈ (first :: rest).map fun o => (o.1, o.2.layout),
        ∀ name ∈ o.2.names, Unmarked name := List.forall_mem_map.mpr plain
    have distinct : (((first :: rest).map fun o => (o.1, o.2.layout)).map (·.1)).Nodup := by
      rw [List.map_map]
      exact distinct
    obtain ⟨steps, last, made, planned, columns⟩ := exists_crossPlan keys plain distinct
    unfold Query.join
    rw [List.map_cons, made, ok_bind]
    refine ⟨_, rfl, columns, fun env datasets each => ?_⟩
    have inputs : (first :: rest).mapM (fun o => do
        return (← o.2.run env).rows.map Row.cells) =
        .ok (datasets.map fun d => d.rows.map Row.cells) := by
      refine mapM_of_forall₂ (List.forall₂_map_right_iff.mpr (each.imp fun o d run => ?_))
      rw [run.1]
      rfl
    have widths : Widths ((first :: rest).map fun o => (o.1, o.2.layout))
        (datasets.map fun d => d.rows.map Row.cells) :=
      List.forall₂_map_left_iff.mpr (List.forall₂_map_right_iff.mpr
        (each.imp fun o d run => List.forall_mem_map.mpr run.2))
    dsimp only
    rw [inputs, ok_bind, execute_cross planned widths, layRows_of_width]
    · rw [crossRows_eq]
    · refine List.forall_mem_map.mpr fun rows member => ?_
      rw [choice_width [] widths rows member, List.map_cons, ← columns]
      rfl

section

variable [PatternLanguage] {scope : Scope} {env : Env} {operands : List JoinOperand}
  {queries : List Query}

theorem run_wide {node : Node} {q : Query} {d : Dataset} (regular : env.RegularIn scope)
    (checked : node.check scope = .ok (.query q)) (run : q.run env = .ok d) :
    ∀ r ∈ d.rows, r.cells.length = q.layout.size := by
  intro r member
  obtain ⟨rows, own⟩ := run_regular regular node checked run
  obtain ⟨columns, width⟩ := rows r member
  have perm := Structure.isCompatibleWith_iff_perm.mp (Structure.isCompatibleWith_trans columns own)
  exact width.trans perm.length_eq

theorem runs_wide {datasets : List Dataset} (regular : env.RegularIn scope)
    (built : List.Forall₂ (fun o q => o.dataset.check scope = .ok (.query q)) operands queries)
    (runs : List.Forall₂ (fun q d => q.run env = .ok d) queries datasets) :
    List.Forall₂ (fun q d => q.run env = .ok d ∧ ∀ r ∈ d.rows, r.cells.length = q.layout.size)
      queries datasets := by
  induction built generalizing datasets with
  | nil =>
    cases runs
    exact .nil
  | cons checked _ ih =>
    cases runs with
    | cons run runs => exact .cons ⟨run, run_wide regular checked run⟩ (ih runs)

/-- A cross join of datasets under different names, whatever these are, can be planned as long as no
column name has the mark. It has the columns of all datasets, under different names, and a row for
every choice of one row of each, with their cells one after the other. -/
theorem cross_join_product {keys : List String} {p : Option Position} (some_operand : operands ≠ [])
    (built : List.Forall₂ (fun o q => o.dataset.check scope = .ok (.query q)) operands queries)
    (distinct : (operands.map JoinOperand.name).Nodup)
    (plain : ∀ q ∈ queries, ∀ name ∈ q.layout.names, Unmarked name) :
    ∃ q, Node.check scope ⟨.join .cross operands keys, p⟩ = .ok (.query q) ∧
      q.layout.components =
        qualifiedColumns [] ((operands.map JoinOperand.name).zip (queries.map Query.layout)) ∧
      q.layout.names.Nodup ∧
      ∀ env, env.RegularIn scope → ∀ datasets,
        List.Forall₂ (fun q d => q.run env = .ok d) queries datasets →
        q.run env = .ok ⟨q.layout, crossRows q.layout datasets⟩ := by
  have count : (operands.map JoinOperand.name).length = queries.length := by
    rw [List.length_map, built.length_eq]
  have labels : ((operands.map JoinOperand.name).zip queries).map (·.1) =
      operands.map JoinOperand.name := List.map_fst_zip (Nat.le_of_eq count)
  have joined : ((operands.map JoinOperand.name).zip queries).map (·.2) = queries :=
    List.map_snd_zip (Nat.le_of_eq count.symm)
  have some_joined : (operands.map JoinOperand.name).zip queries ≠ [] := by
    intro none
    rw [none, List.map_nil] at labels
    exact some_operand (List.map_eq_nil_iff.mp labels.symm)
  have keyless : Checking.keyComponents .cross (queries.map Query.layout) keys = .ok [] := rfl
  obtain ⟨q, made, columns, runs⟩ := exists_crossJoin [] some_joined (by rwa [labels])
    fun o member => plain o.2 (List.of_mem_zip member).2
  have checked : Node.check scope ⟨.join .cross operands keys, p⟩ = .ok (.query (q.locate p)) :=
    (joinNode_ok_iff some_operand built distinct).mpr ⟨[], q, keyless, made, rfl⟩
  refine ⟨q.locate p, checked, ?_, q.layout.nodup, fun env regular datasets each => ?_⟩
  · rw [List.zip_map_right]
    exact columns
  · refine locate_eq_ok_iff.mpr (runs env datasets ?_)
    have wide := runs_wide regular built each
    rw [← joined] at wide
    exact List.forall₂_map_left_iff.mp wide

end

namespace Marks

def left : Structure := ⟨[⟨"x", .string, .measure⟩], by decide⟩

def middle : Structure := ⟨[⟨"x", .integer, .measure⟩, ⟨"y", .integer, .measure⟩], by decide⟩

def lefts : Dataset := ⟨left, [⟨left, [.string "p"]⟩, ⟨left, [.string "q"]⟩]⟩

def middles : Dataset :=
  ⟨middle, [⟨middle, [.integer 1, .integer 2]⟩, ⟨middle, [.integer 3, .null]⟩]⟩

def bindings : Bindings := [("l", .dataset lefts), ("m", .dataset middles)]

/-- Datasets whose names end in the mark or begin with it. -/
def operands : List JoinOperand :=
  [⟨⟨.name "l", none⟩, some "a"⟩, ⟨⟨.name "m", none⟩, some "a#"⟩, ⟨⟨.name "l", none⟩, some "#a"⟩]

def queries : List Query :=
  [⟨left, Checking.boundDataset "l" left⟩, ⟨middle, Checking.boundDataset "m" middle⟩,
    ⟨left, Checking.boundDataset "l" left⟩].map (Query.locate none)

end Marks

open Marks in
theorem cross_join_of_marked_names :
    ∃ q, Node.check bindings.scope ⟨.join .cross operands [], none⟩ = .ok (.query q) ∧
      q.layout.names = ["x", "a##x", "y", "#a#x"] ∧
      q.run bindings.env = .ok ⟨q.layout, crossRows q.layout [lefts, middles, lefts]⟩ ∧
      (crossRows q.layout [lefts, middles, lefts]).map Row.cells =
        [[.string "p", .integer 1, .integer 2, .string "p"],
          [.string "p", .integer 1, .integer 2, .string "q"],
          [.string "p", .integer 3, .null, .string "p"],
          [.string "p", .integer 3, .null, .string "q"],
          [.string "q", .integer 1, .integer 2, .string "p"],
          [.string "q", .integer 1, .integer 2, .string "q"],
          [.string "q", .integer 3, .null, .string "p"],
          [.string "q", .integer 3, .null, .string "q"]] := by
  have built : List.Forall₂ (fun o q => o.dataset.check bindings.scope = .ok (.query q))
      operands queries := .cons rfl (.cons rfl (.cons rfl .nil))
  have plain : ∀ q ∈ queries, ∀ name ∈ q.layout.names, Unmarked name := by
    unfold Unmarked
    decide
  have regular : bindings.env.RegularIn bindings.scope := by
    intro name layout d _ bound
    have member : (name, Value.dataset d) ∈ bindings :=
      (Assoc.find?_eq_some_iff (by decide)).mp bound
    simp only [bindings, List.mem_cons, Prod.mk.injEq, Value.dataset.injEq, List.not_mem_nil,
      or_false] at member
    unfold Dataset.Regular Row.WellFormed
    rcases member with ⟨-, rfl⟩ | ⟨-, rfl⟩ <;> decide
  obtain ⟨q, checked, columns, -, runs⟩ :=
    @cross_join_product _ bindings.scope operands queries [] none (by decide) built (by decide) plain
  have run := runs bindings.env regular [lefts, middles, lefts]
    (.cons rfl (.cons rfl (.cons rfl .nil)))
  have names : q.layout.names = ["x", "a##x", "y", "#a#x"] := by
    rw [Structure.names, columns]
    decide
  exact ⟨q, checked, names, run, rfl⟩

end DatasetScript
