import DatasetScript.Relational.Join
import DatasetScript.Proofs.Columns
import DatasetScript.Proofs.Keys
/-!
# Columns of joined rows

What a plan fixes before any row is read. Main statements: `planSteps_cons` gives the structure and
the places of a step, `cellsAt_key`, `cellsAt_others` and `leftOf_eq` say which cells of a row the
places stand for.
-/

namespace DatasetScript

variable (names : List String)

/-- The key cells of a row, NULL where it lacks the column. -/
def Row.key (r : Row) : List Value := names.map fun name => (r.get? name).getD .null

/-- The cells of a row that are not key cells. -/
def Row.others (r : Row) : List Value := (r.entries.filter fun entry => entry.1 ∉ names).map (·.2)

/-- The cells of a row with a given key in the key columns. -/
def Row.keyed (key : List Value) (r : Row) : List Value :=
  r.entries.map fun entry => (Assoc.find? (names.zip key) entry.1).getD entry.2

/-- The columns that are not keys. -/
def Structure.others (s : Structure) : List Component := s.components.filter fun c => c.name ∉ names

/-- A row without other cells than those that `key` gives for the key columns. -/
def Structure.blank (s : Structure) (key : String → Value) : List Value :=
  s.components.map fun c => if c.name ∈ names then key c.name else .null

variable {names}

/-! ### Plans -/

theorem appendColumns_ok {kind : JoinKind} {label : String} {joined columns out : List Component}
    (equi : kind ≠ .cross) (h : JoinPlan.appendColumns kind names label joined columns = .ok out) :
    out = joined ++ columns.filter fun c => c.name ∉ names := by
  induction columns generalizing joined with
  | nil =>
    cases h
    simp
  | cons c rest ih =>
    unfold JoinPlan.appendColumns at h
    split at h
    · rename_i isKey
      rw [ih h]
      simp [isKey]
    · rename_i other
      split at h
      · cases h
      · rw [ih h]
        simp [other]

/-- What a plan fixes for the step from rows of one structure to those of another. -/
structure StepOf (names : List String) (s layout : Structure) (step : JoinStep) : Prop where
  left : names.mapM s.place = .ok step.leftKeys
  right : names.mapM layout.place = .ok step.rightKeys
  appended : step.appended = JoinPlan.otherPlaces names layout
  width : step.leftWidth = s.size

/-- The first of several steps and what it hands on to the others. -/
theorem planSteps_cons {kind : JoinKind} {joined last layout : Structure} {label : String}
    {rest : List (String × Structure)} {steps : List JoinStep}
    (h : JoinPlan.planSteps kind names joined ((label, layout) :: rest) = .ok (steps, last)) :
    ∃ next step later,
      JoinPlan.appendColumns kind names label joined.components layout.components =
        .ok next.components ∧
      StepOf names joined layout step ∧
      JoinPlan.planSteps kind names next rest = .ok (later, last) ∧ steps = step :: later := by
  unfold JoinPlan.planSteps at h
  obtain ⟨components, appended, h⟩ := bind_ok h
  obtain ⟨leftKeys, left, h⟩ := bind_ok h
  obtain ⟨rightKeys, right, h⟩ := bind_ok h
  obtain ⟨next, made, h⟩ := bind_ok h
  obtain ⟨⟨later, last'⟩, planned, h⟩ := bind_ok h
  cases pure_ok h
  rw [← Structure.ofComponents_ok made] at appended
  exact ⟨next, _, later, appended, ⟨left, right, rfl, rfl⟩, planned, rfl⟩

theorem planSteps_of_step {kind : JoinKind} {joined next last layout : Structure} {label : String}
    {rest : List (String × Structure)} {step : JoinStep} {later : List JoinStep}
    (appended : JoinPlan.appendColumns kind names label joined.components layout.components =
      .ok next.components)
    (places : StepOf names joined layout step)
    (planned : JoinPlan.planSteps kind names next rest = .ok (later, last)) :
    JoinPlan.planSteps kind names joined ((label, layout) :: rest) = .ok (step :: later, last) := by
  obtain ⟨left, right, others, width⟩ := places
  unfold JoinPlan.planSteps
  rw [appended, ok_bind, left, ok_bind, right, ok_bind, Structure.ofComponents_components, ok_bind,
    planned, ok_bind, ← others, ← width]
  rfl

theorem checkKey_ok {label : String} {layout : Structure} {key : Component}
    (h : JoinPlan.checkKey label layout key = .ok ()) : layout.get? key.name = some key := by
  unfold JoinPlan.checkKey at h
  split at h
  · cases h
  · rename_i c found
    split at h
    · rename_i same
      rw [found, same]
    · cases h

theorem checkKey_of_get? {label : String} {layout : Structure} {key : Component}
    (found : layout.get? key.name = some key) : JoinPlan.checkKey label layout key = .ok () := by
  simp [JoinPlan.checkKey, found]

/-- Every operand has the key columns, of which a cross join has none. -/
theorem ofOperands_cons {kind : JoinKind} {label : String} {first : Structure}
    {rest : List (String × Structure)} {keys : List Component} {plan : JoinPlan}
    (h : JoinPlan.ofOperands kind ((label, first) :: rest) keys = .ok plan) :
    plan.kind = kind ∧
      (∀ o ∈ (label, first) :: rest, ∀ key ∈ if kind = .cross then [] else keys,
        o.2.get? key.name = some key) ∧
      JoinPlan.planSteps kind ((if kind = .cross then [] else keys).map Component.name) first rest =
        .ok (plan.steps, plan.layout) := by
  unfold JoinPlan.ofOperands at h
  obtain ⟨_, checked, h⟩ := bind_ok h
  obtain ⟨⟨steps, layout⟩, planned, h⟩ := bind_ok h
  rw [pure_ok h]
  exact ⟨rfl, fun o member key here => checkKey_ok (forM_ok (forM_ok checked o member) key here), planned⟩

/-! ### Key cells -/

section

variable {s t : Structure} {places : List Nat} {cells : List Value}

theorem cellsAt_key (found : names.mapM s.place = .ok places) :
    JoinPlan.cellsAt cells places = Row.key names ⟨s, cells⟩ := by
  have each := mapM_ok found
  unfold JoinPlan.cellsAt Row.key
  clear found
  induction each with
  | nil => rfl
  | cons here _ ih =>
    rw [List.map_cons, List.map_cons, ih]
    simp [Row.get?, Structure.place_ok here]

theorem key_eq_of_layout {r : Row} (own : r.layout = s) :
    Row.key names ⟨s, r.cells⟩ = r.key names := by
  subst own
  rfl

/-- Cells that are appended leave the key as it is. -/
theorem key_append {more : List Component} {extra : List Value}
    (columns : t.components = s.components ++ more) (found : names.mapM s.place = .ok places)
    (width : cells.length = s.size) :
    Row.key names ⟨t, cells ++ extra⟩ = Row.key names ⟨s, cells⟩ := by
  unfold Row.key
  refine List.map_congr_left fun name member => ?_
  obtain ⟨i, -, here⟩ := mapM_each found member
  have place := Structure.place_ok here
  obtain ⟨c, at_i, named⟩ := Structure.indexOf?_eq_some_iff.mp place
  obtain ⟨bound, -⟩ := List.getElem?_eq_some_iff.mp at_i
  have place' : t.indexOf? name = some i := by
    refine Structure.indexOf?_eq_some_iff.mpr ⟨c, ?_, named⟩
    rw [columns, List.getElem?_append_left bound, at_i]
  have within : i < cells.length := by
    rw [width]
    exact bound
  simp only [Row.get?, place, place', Option.bind_some, List.getElem?_append_left within]

theorem key_blank (found : names.mapM s.place = .ok places) (key : String → Value) :
    Row.key names ⟨s, s.blank names key⟩ = names.map key := by
  unfold Row.key
  refine List.map_congr_left fun name member => ?_
  obtain ⟨i, -, here⟩ := mapM_each found member
  have place := Structure.place_ok here
  obtain ⟨c, at_i, named⟩ := Structure.indexOf?_eq_some_iff.mp place
  simp [Row.get?, place, Structure.blank, at_i, named, member]

/-! ### Other cells -/

theorem entries_eq (s : Structure) (cells : List Value) :
    Row.entries ⟨s, cells⟩ = (s.components.map Component.name).zip cells := rfl

theorem places_filter (p : Component → Bool) (columns : List Component) (cells : List Value)
    (width : cells.length = columns.length) :
    ((List.range columns.length).filter fun i =>
      match columns[i]? with
      | some c => p c
      | none => false).map (fun i => cells[i]?.getD .null) =
      ((columns.zip cells).filter fun entry => p entry.1).map (·.2) := by
  induction columns generalizing cells with
  | nil => rfl
  | cons c rest ih =>
    cases cells with
    | nil => cases width
    | cons v vs =>
      have later := ih vs (Nat.succ.inj width)
      rw [List.length_cons, List.range_succ_eq_map, List.filter_cons, List.zip_cons_cons,
        List.filter_cons]
      have shifted : (((List.range rest.length).map Nat.succ).filter fun i =>
          match (c :: rest)[i]? with
          | some c => p c
          | none => false).map (fun i => (v :: vs)[i]?.getD .null) =
          ((rest.zip vs).filter fun entry => p entry.1).map (·.2) := by
        rw [List.filter_map, List.map_map, ← later]
        rfl
      by_cases chosen : p c <;> simp [chosen, shifted]

/-- The places that a step appends are those of the other columns. -/
theorem cellsAt_others (width : cells.length = s.size) :
    JoinPlan.cellsAt cells (JoinPlan.otherPlaces names s) = Row.others names ⟨s, cells⟩ := by
  have filtered := places_filter (fun c => decide (c.name ∉ names)) s.components cells width
  unfold JoinPlan.cellsAt JoinPlan.otherPlaces Row.others
  rw [entries_eq, List.zip_map_left, List.filter_map, List.map_map]
  exact filtered

theorem others_eq (s : Structure) (cells : List Value) :
    Row.others names ⟨s, cells⟩ =
      ((s.components.zip cells).filter fun entry => decide (entry.1.name ∉ names)).map (·.2) := by
  unfold Row.others
  rw [entries_eq, List.zip_map_left, List.filter_map, List.map_map]
  rfl

theorem length_others (width : cells.length = s.size) :
    (Row.others names ⟨s, cells⟩).length = (s.others names).length := by
  have columns : (s.components.zip cells).map (·.1) = s.components :=
    List.map_fst_zip (Nat.le_of_eq width.symm)
  rw [others_eq, List.length_map]
  unfold Structure.others
  conv_rhs => rw [← columns]
  rw [List.filter_map, List.length_map]
  rfl

theorem nulls_zip (s : Structure) :
    s.components.zip (Row.nulls s).cells = s.components.map fun c => (c, .null) := by
  have cells : (Row.nulls s).cells = s.components.map fun _ => .null := List.map_const'.symm
  rw [cells]
  exact List.map_prod_left_eq_zip.symm

theorem others_nulls (s : Structure) :
    Row.others names (Row.nulls s) = (s.others names).map fun _ => .null := by
  change Row.others names ⟨s, (Row.nulls s).cells⟩ = _
  rw [others_eq, nulls_zip, List.filter_map, List.map_map]
  rfl

theorem length_otherPlaces (s : Structure) :
    (JoinPlan.otherPlaces names s).length = (s.others names).length := by
  have width : (Row.nulls s).cells.length = s.size := List.length_replicate
  have cells := congrArg List.length (cellsAt_others width : _ = Row.others names _)
  rwa [length_others width, JoinPlan.cellsAt, List.length_map] at cells

/-! ### Cells with a given key -/

theorem find?_zip_map (key : String → Value) (name : String) :
    Assoc.find? (names.zip (names.map key)) name = if name ∈ names then some (key name) else none := by
  induction names with
  | nil => rfl
  | cons first rest ih =>
    rw [List.map_cons, List.zip_cons_cons, Assoc.find?_cons, ih]
    by_cases same : first = name
    · simp [same]
    · simp [same, Ne.symm same]

theorem get?_of_mem_entries {r : Row} {entry : String × Value} (member : entry ∈ r.entries) :
    r.get? entry.1 = some entry.2 := by
  obtain ⟨i, bound, here⟩ := List.getElem_of_mem member
  unfold Row.entries at bound here
  rw [List.getElem_zip] at here
  have onNames : i < r.layout.components.length := by
    simp only [Structure.names, List.length_zip, List.length_map] at bound
    omega
  have onCells : i < r.cells.length := by
    simp only [List.length_zip] at bound
    omega
  have place : r.layout.indexOf? entry.1 = some i := by
    refine Structure.indexOf?_eq_some_iff.mpr ⟨_, List.getElem?_eq_getElem onNames, ?_⟩
    rw [← here]
    simp [Structure.names]
  rw [← here] at place ⊢
  simp [Row.get?, place, List.getElem?_eq_getElem onCells]

/-- A row with its own key is the row. -/
theorem keyed_self (r : Row) (width : r.cells.length = r.layout.size) :
    r.keyed names (r.key names) = r.cells := by
  have cells : r.entries.map (·.2) = r.cells := by
    refine List.map_snd_zip (Nat.le_of_eq ?_)
    simpa [Structure.names, Structure.size] using width
  unfold Row.keyed Row.key
  conv_rhs => rw [← cells]
  refine List.map_congr_left fun entry member => ?_
  rw [find?_zip_map, get?_of_mem_entries member]
  split <;> rfl

theorem keyed_nulls (s : Structure) (key : String → Value) :
    Row.keyed names (names.map key) (Row.nulls s) = s.blank names key := by
  unfold Row.keyed Structure.blank
  change ((s.components.map Component.name).zip (Row.nulls s).cells).map _ = _
  rw [List.zip_map_left, nulls_zip, List.map_map, List.map_map]
  refine List.map_congr_left fun c _ => ?_
  simp only [Function.comp_apply, Prod.map_fst, Prod.map_snd, find?_zip_map]
  split <;> rfl

/-! ### Rows that nothing matches -/

/-- Writing the cells of a row to the places of its key columns. -/
theorem foldl_set_key {right : Row} {leftKeys rightKeys : List Nat}
    (left : names.mapM s.place = .ok leftKeys) (found : names.mapM right.layout.place = .ok rightKeys)
    (width : cells.length = s.size) :
    (leftKeys.zip rightKeys).foldl (fun cells (l, r) => cells.set l (right.cells[r]?.getD .null)) cells =
      (s.components.zip cells).map fun entry =>
        if entry.1.name ∈ names then (right.get? entry.1.name).getD .null else entry.2 := by
  induction names generalizing leftKeys rightKeys cells with
  | nil =>
    cases pure_ok left
    cases pure_ok found
    have snd : (s.components.zip cells).map (·.2) = cells := List.map_snd_zip (Nat.le_of_eq width)
    simpa using snd.symm
  | cons name rest ih =>
    obtain ⟨l, leftRest, hereLeft, laterLeft, rfl⟩ := mapM_cons_ok left
    obtain ⟨r, rightRest, hereRight, laterRight, rfl⟩ := mapM_cons_ok found
    rw [List.zip_cons_cons, List.foldl_cons, ih laterLeft laterRight (by simpa using width)]
    have place := Structure.place_ok hereLeft
    have written : right.cells[r]?.getD .null = (right.get? name).getD .null := by
      simp [Row.get?, Structure.place_ok hereRight]
    dsimp only
    rw [written]
    apply List.ext_getElem (by simp)
    intro j bound bound'
    have within : j < s.components.length := by
      simp only [List.length_map, List.length_zip] at bound
      omega
    simp only [List.getElem_map, List.getElem_zip, List.getElem_set, List.mem_cons]
    -- no two columns share a name, so the place written is that of this name alone
    have named : s.components[j].name = name ↔ l = j := by
      constructor
      · intro same
        have found := Structure.indexOf?_eq_some_iff.mpr
          ⟨_, List.getElem?_eq_getElem within, same⟩
        exact Option.some.inj (place.symm.trans found)
      · rintro rfl
        obtain ⟨c, here, same⟩ := Structure.indexOf?_eq_some_iff.mp place
        rw [← same, ← Option.some.inj ((List.getElem?_eq_getElem within).symm.trans here)]
    by_cases here : l = j
    · have same := named.mpr here
      by_cases again : name ∈ rest <;> simp [same, here, again]
    · have other : s.components[j].name ≠ name := fun same => here (named.mp same)
      simp [other, here]

/-- The row that stands for the rows joined so far. -/
theorem leftOf_eq {step : JoinStep} {right : Row} (left : names.mapM s.place = .ok step.leftKeys)
    (found : names.mapM right.layout.place = .ok step.rightKeys) (width : step.leftWidth = s.size) :
    JoinPlan.leftOf step right.cells = s.blank names fun name => (right.get? name).getD .null := by
  have nulls : List.replicate step.leftWidth Value.null = (Row.nulls s).cells := by
    rw [width]
    rfl
  unfold JoinPlan.leftOf Structure.blank
  rw [nulls, foldl_set_key left found (by simp [Row.nulls]), nulls_zip, List.map_map]
  rfl

end

end DatasetScript
