import DatasetScript.Proofs.JoinColumns
import DatasetScript.Proofs.Rows
import Mathlib.Data.List.Permutation
/-!
# Joins as products

Inner, left and full joins work step by step, yet treat their operands alike: for every key they
give the product of the rows that the operands have for it. Main statement: `join_eq_products`.
-/

namespace DatasetScript

/-! ### Choices -/

/-- One item of each list, those of earlier lists varying slower. -/
def choices {α : Type} : List (List α) → List (List α)
  | [] => [[]]
  | items :: rest => items.flatMap fun a => (choices rest).map (a :: ·)

theorem choices_concat {α : Type} (lists : List (List α)) (items : List α) :
    choices (lists ++ [items]) = (choices lists).flatMap fun c => items.map fun a => c ++ [a] := by
  induction lists with
  | nil =>
    simp only [List.nil_append, choices, List.map_singleton, List.flatMap_singleton]
    exact List.map_eq_flatMap.symm
  | cons first rest ih =>
    simp only [List.cons_append, choices, ih, List.flatMap_assoc, List.map_flatMap, List.flatMap_map,
      List.map_map]
    rfl

theorem choices_ne_nil {α : Type} {lists : List (List α)} (some_item : ∀ l ∈ lists, l ≠ []) :
    choices lists ≠ [] := by
  induction lists with
  | nil => exact List.cons_ne_nil _ _
  | cons first rest ih =>
    obtain ⟨a, member⟩ := List.exists_mem_of_ne_nil _ (some_item first List.mem_cons_self)
    obtain ⟨c, here⟩ := List.exists_mem_of_ne_nil _
      (ih fun l later => some_item l (List.mem_cons_of_mem first later))
    exact List.ne_nil_of_mem (List.mem_flatMap.mpr ⟨a, member, List.mem_map_of_mem here⟩)

theorem length_of_mem_choices {α : Type} {lists : List (List α)} {c : List α}
    (member : c ∈ choices lists) : c.length = lists.length := by
  induction lists generalizing c with
  | nil =>
    rw [List.mem_singleton.mp member]
    rfl
  | cons first rest ih =>
    obtain ⟨a, -, member⟩ := List.mem_flatMap.mp member
    obtain ⟨later, here, rfl⟩ := List.mem_map.mp member
    rw [List.length_cons, ih here]
    rfl

/-! ### What a join should give -/

section

variable (names : List String)

/-- The rows of a dataset with a given key. -/
def Dataset.matching (d : Dataset) (key : List Value) : List Row :=
  d.rows.filter fun r => sameKey (r.key names) key

/-- The rows with a given key, or else one row of NULLs. -/
def Dataset.matchingOrNulls (d : Dataset) (key : List Value) : List Row :=
  match d.matching names key with
  | [] => [Row.nulls d.layout]
  | rows => rows

def Dataset.hasKey (d : Dataset) (key : List Value) : Bool :=
  d.rows.any fun r => sameKey (r.key names) key

/-- The keys of the rows of several datasets, one dataset after the other. -/
def keysOf (operands : List Dataset) : List (List Value) :=
  operands.flatMap fun d => d.rows.map (Row.key names)

/-- A row of each dataset in one: the key, and the cells of every row that are not key cells. -/
def combination (key : List Value) : List Row → List Value
  | [] => []
  | first :: rest => first.keyed names key ++ rest.flatMap (Row.others names)

/-- All combinations of rows with a given key. -/
def productOf (operands : List Dataset) (key : List Value) : List (List Value) :=
  (choices (operands.map fun d => d.matchingOrNulls names key)).map (combination names key)

/-- Which keys a join is about: those of every dataset, of the first, or of some. -/
def JoinKind.admits (kind : JoinKind) (operands : List Dataset) (key : List Value) : Bool :=
  match kind with
  | .inner => operands.all fun d => d.hasKey names key
  | .left => operands.head?.any fun d => d.hasKey names key
  | .full => operands.any fun d => d.hasKey names key
  | .cross => true

end

variable {names : List String}

/-! ### Rows with a key -/

section

variable {d : Dataset} {key : List Value}

theorem hasKey_iff : d.hasKey names key ↔ d.matching names key ≠ [] := by
  unfold Dataset.hasKey Dataset.matching
  rw [List.any_eq_true, Ne, List.filter_eq_nil_iff]
  simp

theorem matchingOrNulls_of_hasKey (h : d.hasKey names key) :
    d.matchingOrNulls names key = d.matching names key := by
  unfold Dataset.matchingOrNulls
  split
  · rename_i none_left
    exact absurd none_left (hasKey_iff.mp h)
  · rfl

theorem matchingOrNulls_of_not_hasKey (h : ¬ d.hasKey names key) :
    d.matchingOrNulls names key = [Row.nulls d.layout] := by
  unfold Dataset.matchingOrNulls
  rw [not_not.mp (mt hasKey_iff.mpr h)]

theorem matchingOrNulls_ne_nil : d.matchingOrNulls names key ≠ [] := by
  by_cases h : d.hasKey names key
  · rw [matchingOrNulls_of_hasKey h]
    exact hasKey_iff.mp h
  · rw [matchingOrNulls_of_not_hasKey h]
    exact List.cons_ne_nil _ _

theorem productOf_ne_nil {operands : List Dataset} : productOf names operands key ≠ [] := by
  unfold productOf
  rw [Ne, List.map_eq_nil_iff]
  refine choices_ne_nil fun l member => ?_
  obtain ⟨d, -, rfl⟩ := List.mem_map.mp member
  exact matchingOrNulls_ne_nil

theorem productOf_first :
    productOf names [d] key = (d.matchingOrNulls names key).map (Row.keyed names key) := by
  unfold productOf
  simp only [List.map_singleton, choices]
  rw [← List.map_eq_flatMap, List.map_map]
  exact List.map_congr_left fun r _ => List.append_nil _

/-- One more operand extends every combination. -/
theorem productOf_concat {operands : List Dataset} (some_operand : operands ≠ []) :
    productOf names (operands ++ [d]) key = (productOf names operands key).flatMap fun cells =>
      (d.matchingOrNulls names key).map fun r => cells ++ r.others names := by
  unfold productOf
  rw [List.map_append, List.map_singleton, choices_concat, List.map_flatMap, List.flatMap_map]
  refine List.flatMap_congr fun c member => ?_
  rw [List.map_map]
  refine List.map_congr_left fun r _ => ?_
  cases c with
  | nil =>
    have none_chosen := length_of_mem_choices member
    rw [List.length_map] at none_chosen
    exact absurd (List.length_eq_zero_iff.mp none_chosen.symm) some_operand
  | cons first rest => simp [combination, List.flatMap_append]

end

/-! ### One step -/

section

variable {s : Structure} {d : Dataset} {step : JoinStep} {kind : JoinKind}

theorem matchesRow_eq (planned : StepOf names s d.layout step) (tabular : d.Tabular) (cells : List Value)
    {r : Row} (member : r ∈ d.rows) :
    JoinPlan.matchesRow step cells r.cells = sameKey (r.key names) (Row.key names ⟨s, cells⟩) := by
  unfold JoinPlan.matchesRow
  rw [cellsAt_key planned.right, cellsAt_key planned.left, ← (tabular r member).1]
  rfl

theorem cellsAt_appended (planned : StepOf names s d.layout step) (tabular : d.Tabular) {r : Row}
    (member : r ∈ d.rows) : JoinPlan.cellsAt r.cells step.appended = r.others names := by
  obtain ⟨own, width⟩ := tabular r member
  rw [planned.appended, ← own]
  exact cellsAt_others width

theorem nulls_appended (planned : StepOf names s d.layout step) :
    List.replicate step.appended.length Value.null = (Row.nulls d.layout).others names := by
  rw [others_nulls, List.map_const', planned.appended, length_otherPlaces]

/-- A row joined so far gives one row for each row with its key, or for the row of NULLs. -/
theorem joinLeft_eq (planned : StepOf names s d.layout step) (tabular : d.Tabular) (cells : List Value) :
    JoinPlan.joinLeft kind step (d.rows.map Row.cells) cells =
      if kind = .inner ∧ ¬ d.hasKey names (Row.key names ⟨s, cells⟩) then []
      else (d.matchingOrNulls names (Row.key names ⟨s, cells⟩)).map fun r =>
        cells ++ r.others names := by
  have partners : (d.rows.map Row.cells).filter (JoinPlan.matchesRow step cells) =
      (d.matching names (Row.key names ⟨s, cells⟩)).map Row.cells := by
    rw [List.filter_map]
    congr 1
    exact List.filter_congr fun r member => matchesRow_eq planned tabular cells member
  have combined : ((d.matching names (Row.key names ⟨s, cells⟩)).map Row.cells).map
      (JoinPlan.combine step cells) =
      (d.matching names (Row.key names ⟨s, cells⟩)).map fun r => cells ++ r.others names := by
    rw [List.map_map]
    refine List.map_congr_left fun r member => ?_
    exact congrArg _ (cellsAt_appended planned tabular (List.mem_filter.mp member).1)
  unfold JoinPlan.joinLeft
  rw [partners]
  by_cases present : d.hasKey names (Row.key names ⟨s, cells⟩)
  · obtain ⟨first, rest, found⟩ := List.exists_cons_of_ne_nil (hasKey_iff.mp present)
    simp only [present, not_true_eq_false, and_false, if_false, matchingOrNulls_of_hasKey present]
    rw [← combined, found]
    rfl
  · have none_left := not_not.mp (mt hasKey_iff.mpr present)
    rw [none_left, List.map_nil, matchingOrNulls_of_not_hasKey present, List.map_singleton,
      ← nulls_appended planned]
    simp [present]

/-- The rows that a row joined so far gives. -/
def extended (names : List String) (kind : JoinKind) (s : Structure) (d : Dataset)
    (cells : List Value) : List (List Value) :=
  if kind = .inner ∧ ¬ d.hasKey names (Row.key names ⟨s, cells⟩) then []
  else (d.matchingOrNulls names (Row.key names ⟨s, cells⟩)).map fun r => cells ++ r.others names

/-- The rows of the next dataset without a row joined so far that has their key. -/
def unmatched (names : List String) (s : Structure) (d : Dataset) (rows : List (List Value)) :
    List Row :=
  d.rows.filter fun r => !(rows.map fun cells => Row.key names ⟨s, cells⟩).any (sameKey (r.key names))

/-- A row of the next dataset next to NULLs. -/
def standing (names : List String) (s : Structure) (r : Row) : List Value :=
  s.blank names (fun name => (r.get? name).getD .null) ++ r.others names

theorem joinStep_eq (equi : kind ≠ .cross) (planned : StepOf names s d.layout step) (tabular : d.Tabular)
    (rows : List (List Value)) :
    JoinPlan.joinStep kind step rows (d.rows.map Row.cells) =
      rows.flatMap (extended names kind s d) ++
        if kind = .full then (unmatched names s d rows).map (standing names s) else [] := by
  have joined : rows.flatMap (JoinPlan.joinLeft kind step (d.rows.map Row.cells)) =
      rows.flatMap (extended names kind s d) :=
    List.flatMap_congr fun cells _ => joinLeft_eq planned tabular cells
  have left_over : ((d.rows.map Row.cells).filter fun r =>
      !rows.any (JoinPlan.matchesRow step · r)) = (unmatched names s d rows).map Row.cells := by
    rw [List.filter_map]
    congr 1
    refine List.filter_congr fun r member => ?_
    simp only [Function.comp_apply, List.any_map]
    congr 2
    funext cells
    exact matchesRow_eq planned tabular cells member
  unfold JoinPlan.joinStep
  rw [if_neg equi]
  dsimp only
  rw [joined, left_over]
  split
  · rw [List.map_map]
    congr 1
    refine List.map_congr_left fun r member => ?_
    have here := (List.mem_filter.mp member).1
    have own := (tabular r here).1
    have right := planned.right
    rw [← own] at right
    simp only [Function.comp_apply, JoinPlan.combine, standing, cellsAt_appended planned tabular here,
      leftOf_eq planned.left right planned.width]
  · rw [List.append_nil]

variable {t : Structure} {rows : List (List Value)} {cells out : List Value} {key : List Value}

theorem extended_key (planned : StepOf names s d.layout step)
    (columns : t.components = s.components ++ d.layout.others names) (width : cells.length = s.size)
    (member : out ∈ extended names kind s d cells) :
    Row.key names ⟨t, out⟩ = Row.key names ⟨s, cells⟩ := by
  unfold extended at member
  split at member
  · cases member
  · obtain ⟨r, -, rfl⟩ := List.mem_map.mp member
    exact key_append columns planned.left width

theorem extended_ne_nil_iff : extended names kind s d cells ≠ [] ↔
    (kind != .inner || d.hasKey names (Row.key names ⟨s, cells⟩)) := by
  unfold extended
  split
  · rename_i dropped
    simp [dropped.1, dropped.2]
  · rename_i kept
    rw [Ne, List.map_eq_nil_iff]
    simp only [matchingOrNulls_ne_nil, not_false_eq_true, true_iff, Bool.or_eq_true, bne_iff_ne, ne_eq]
    exact (not_and_or.mp kept).imp_right not_not.mp

theorem standing_key {r : Row} (planned : StepOf names s d.layout step)
    (columns : t.components = s.components ++ d.layout.others names) :
    Row.key names ⟨t, standing names s r⟩ = r.key names := by
  have width : (s.blank names fun name => (r.get? name).getD .null).length = s.size :=
    List.length_map _
  unfold standing
  rw [key_append columns planned.left width, key_blank planned.left]
  rfl

end

/-! ### Which keys a join is about -/

section

variable {operands : List Dataset} {d : Dataset} {key : List Value} {kind : JoinKind}

/-- No key cell of the rows is a dataset. -/
def Dataset.PlainKeys (names : List String) (d : Dataset) : Prop :=
  ∀ r ∈ d.rows, PlainKey (r.key names)

theorem Dataset.PlainKeys.keys (plain : d.PlainKeys names) :
    ∀ k ∈ d.rows.map (Row.key names), PlainKey k := List.forall_mem_map.mpr plain

theorem Dataset.PlainKeys.filter (plain : d.PlainKeys names) (p : List Value → Bool) :
    ∀ k ∈ (d.rows.map (Row.key names)).filter p, PlainKey k :=
  fun k member => plain.keys k (List.mem_filter.mp member).1

theorem keysOf_plain (plain : ∀ d ∈ operands, d.PlainKeys names) :
    ∀ k ∈ keysOf names operands, PlainKey k := by
  intro k member
  obtain ⟨d, here, member⟩ := List.mem_flatMap.mp member
  exact (plain d here).keys k member

theorem hasKey_iff_mem (plain : d.PlainKeys names) :
    d.hasKey names key ↔ key ∈ d.rows.map (Row.key names) := by
  unfold Dataset.hasKey
  rw [List.any_eq_true, List.mem_map]
  refine exists_congr fun r => and_congr_right fun member => ?_
  exact sameKey_iff (plain r member)

theorem any_hasKey_iff_mem (plain : ∀ d ∈ operands, d.PlainKeys names) :
    (operands.any fun d => d.hasKey names key) ↔ key ∈ keysOf names operands := by
  unfold keysOf
  rw [List.any_eq_true, List.mem_flatMap]
  exact exists_congr fun d => and_congr_right fun member => hasKey_iff_mem (plain d member)

theorem mem_keysOf_of_admits (equi : kind ≠ .cross) (some_operand : operands ≠ [])
    (plain : ∀ d ∈ operands, d.PlainKeys names) (admitted : kind.admits names operands key) :
    key ∈ keysOf names operands := by
  rw [← any_hasKey_iff_mem plain]
  obtain ⟨first, rest, rfl⟩ := List.exists_cons_of_ne_nil some_operand
  cases kind with
  | cross => contradiction
  | full => exact admitted
  | left =>
    have present : first.hasKey names key := by simpa [JoinKind.admits] using admitted
    simp [present]
  | inner =>
    have present := List.all_eq_true.mp admitted first List.mem_cons_self
    simp [present]

theorem admits_concat (equi : kind ≠ .cross) (some_operand : operands ≠ []) :
    kind.admits names (operands ++ [d]) key =
      match kind with
      | .inner => kind.admits names operands key && d.hasKey names key
      | .full => kind.admits names operands key || d.hasKey names key
      | _ => kind.admits names operands key := by
  obtain ⟨first, rest, rfl⟩ := List.exists_cons_of_ne_nil some_operand
  cases kind <;> simp [JoinKind.admits, Bool.or_assoc, Bool.and_assoc]

end

/-! ### Rows joined so far -/

/-- The columns of the first dataset, and those of the others that are not keys. -/
def joinedColumns (names : List String) : List Dataset → List Component
  | [] => []
  | first :: rest => first.layout.components ++ rest.flatMap fun d => d.layout.others names

/-- Rows of a structure are the join of some datasets. -/
structure Joined (names : List String) (kind : JoinKind) (operands : List Dataset) (s : Structure)
    (rows : List (List Value)) : Prop where
  columns : s.components = joinedColumns names operands
  width : ∀ cells ∈ rows, cells.length = s.size
  plain : ∀ cells ∈ rows, PlainKey (Row.key names ⟨s, cells⟩)
  /-- the rows with a key are its product, if the join is about the key -/
  groups : ∀ key, (rows.filter fun cells => sameKey (Row.key names ⟨s, cells⟩) key) =
    if kind.admits names operands key then productOf names operands key else []
  /-- keys come in the order in which they are met -/
  order : distinctKeys (rows.map fun cells => Row.key names ⟨s, cells⟩) =
    (distinctKeys (keysOf names operands)).filter (kind.admits names operands)

/-- Where no dataset has a key, its product is one row without other cells. -/
theorem productOf_blank {operands : List Dataset} {s : Structure} (some_operand : operands ≠ [])
    (columns : s.components = joinedColumns names operands) (value : String → Value)
    (absent : ∀ d ∈ operands, ¬ d.hasKey names (names.map value)) :
    productOf names operands (names.map value) = [s.blank names value] := by
  obtain ⟨first, rest, rfl⟩ := List.exists_cons_of_ne_nil some_operand
  have nulls : ((first :: rest).map fun d => d.matchingOrNulls names (names.map value)) =
      (first :: rest).map fun d => [Row.nulls d.layout] :=
    List.map_congr_left fun d member => matchingOrNulls_of_not_hasKey (absent d member)
  have only (ds : List Dataset) : choices (ds.map fun d => [Row.nulls d.layout]) =
      [ds.map fun d => Row.nulls d.layout] := by
    induction ds with
    | nil => rfl
    | cons d ds ih => simp [choices, ih]
  unfold productOf
  rw [nulls, only, List.map_singleton, List.map_cons]
  congr 1
  change Row.keyed names (names.map value) (Row.nulls first.layout) ++
    (rest.map fun d => Row.nulls d.layout).flatMap (Row.others names) = _
  rw [keyed_nulls, List.flatMap_map]
  unfold Structure.blank
  rw [columns, joinedColumns, List.map_append, List.map_flatMap]
  congr 1
  refine List.flatMap_congr fun d _ => ?_
  rw [others_nulls]
  refine List.map_congr_left fun c member => ?_
  have other := (List.mem_filter.mp member).2
  simp only [decide_eq_true_eq] at other
  rw [if_neg other]

theorem cells_of_key {d : Dataset} {key : List Value} (tabular : d.Tabular) :
    ((d.rows.map Row.cells).filter fun cells => sameKey (Row.key names ⟨d.layout, cells⟩) key) =
      (d.matching names key).map Row.cells := by
  rw [List.filter_map]
  congr 1
  refine List.filter_congr fun r member => ?_
  simp only [Function.comp_apply, key_eq_of_layout (tabular r member).1]

/-- The first dataset is the join of itself. -/
theorem joined_first {first : Dataset} {kind : JoinKind} (equi : kind ≠ .cross)
    (tabular : first.Tabular) (plain : first.PlainKeys names) :
    Joined names kind [first] first.layout (first.rows.map Row.cells) := by
  have admitted (key : List Value) : kind.admits names [first] key = first.hasKey names key := by
    cases kind <;> simp [JoinKind.admits] at equi ⊢
  have keys : (first.rows.map Row.cells).map (fun cells => Row.key names ⟨first.layout, cells⟩) =
      first.rows.map (Row.key names) := by
    rw [List.map_map]
    exact List.map_congr_left fun r member => key_eq_of_layout (tabular r member).1
  constructor
  case columns => simp [joinedColumns]
  case width =>
    intro cells member
    obtain ⟨r, here, rfl⟩ := List.mem_map.mp member
    obtain ⟨own, width⟩ := tabular r here
    rw [← own]
    exact width
  case plain =>
    intro cells member
    obtain ⟨r, here, rfl⟩ := List.mem_map.mp member
    rw [key_eq_of_layout (tabular r here).1]
    exact plain r here
  case groups =>
    intro key
    rw [cells_of_key tabular, admitted]
    split
    · rename_i present
      rw [productOf_first, matchingOrNulls_of_hasKey present]
      refine List.map_congr_left fun r member => ?_
      obtain ⟨here, same⟩ := List.mem_filter.mp member
      rw [← (sameKey_iff (plain r here)).mp same, keyed_self r (tabular r here).2]
    · rename_i absent
      rw [not_not.mp (mt hasKey_iff.mpr absent)]
      rfl
  case order =>
    rw [keys]
    unfold keysOf
    rw [List.flatMap_singleton, List.filter_eq_self.mpr]
    intro key member
    rw [admitted, hasKey_iff_mem plain]
    exact (mem_distinctKeys plain.keys).mp member

/-! ### Joining one more dataset -/

section

variable {kind : JoinKind} {operands : List Dataset} {s t : Structure} {d : Dataset}
variable {step : JoinStep} {rows : List (List Value)}

theorem joinedColumns_concat (some_operand : operands ≠ []) :
    joinedColumns names (operands ++ [d]) = joinedColumns names operands ++ d.layout.others names := by
  obtain ⟨first, rest, rfl⟩ := List.exists_cons_of_ne_nil some_operand
  simp [joinedColumns]

theorem length_others_of_tabular {r : Row} (own : r.layout = d.layout) (width : r.WellFormed) :
    (r.others names).length = (d.layout.others names).length := by
  rw [← own]
  exact length_others width

theorem matchingOrNulls_tabular {key : List Value} (tabular : d.Tabular) {r : Row}
    (member : r ∈ d.matchingOrNulls names key) : r.layout = d.layout ∧ r.WellFormed := by
  unfold Dataset.matchingOrNulls at member
  split at member
  · rw [List.mem_singleton.mp member]
    exact ⟨rfl, List.length_replicate⟩
  · exact tabular r (List.mem_filter.mp member).1

/-- If some row joined so far has the key, every row with the key is matched. -/
theorem unmatched_of_met (joined : Joined names .full operands s rows) (plain : d.PlainKeys names)
    (admitted : JoinKind.full.admits names operands key) :
    ((unmatched names s d rows).filter fun r => sameKey (r.key names) key) = [] := by
  have groups := joined.groups key
  rw [if_pos admitted] at groups
  refine List.filter_eq_nil_iff.mpr fun r member same => ?_
  obtain ⟨here, free⟩ := List.mem_filter.mp member
  obtain ⟨cells, found⟩ := List.exists_mem_of_ne_nil _ (groups ▸ productOf_ne_nil)
  obtain ⟨inRows, sameCells⟩ := List.mem_filter.mp found
  have equal := (sameKey_iff (joined.plain cells inRows)).mp sameCells
  have equal' := (sameKey_iff (plain r here)).mp same
  have met : r.key names ∈ rows.map fun cells => Row.key names ⟨s, cells⟩ :=
    List.mem_map.mpr ⟨cells, inRows, equal.trans equal'.symm⟩
  rw [(any_sameKey_iff (plain r here)).mpr met] at free
  cases free

/-- If no row joined so far has the key, no row with the key is matched. -/
theorem unmatched_of_new (joined : Joined names .full operands s rows) (plain : d.PlainKeys names)
    (new : ¬ JoinKind.full.admits names operands key) :
    ((unmatched names s d rows).filter fun r => sameKey (r.key names) key) = d.matching names key := by
  have groups := joined.groups key
  rw [if_neg new] at groups
  unfold unmatched Dataset.matching
  rw [List.filter_filter]
  refine List.filter_congr fun r here => ?_
  by_cases same : sameKey (r.key names) key
  · have free : (rows.map fun cells => Row.key names ⟨s, cells⟩).any (sameKey (r.key names)) =
        false := by
      rw [any_sameKey_eq_false_iff (plain r here), List.mem_map]
      rintro ⟨cells, inRows, equal⟩
      have met := List.filter_eq_nil_iff.mp groups cells inRows
      rw [equal] at met
      exact met same
    simp [same, free]
  · simp [same]

/-- For a key that no operand has, a row with the key stands next to the product of the operands. -/
theorem productOf_new {r : Row} (some_operand : operands ≠ [])
    (joined : Joined names .full operands s rows) (plain : d.PlainKeys names)
    (new : ¬ JoinKind.full.admits names operands key) (member : r ∈ d.matching names key) :
    productOf names operands key = [s.blank names fun name => (r.get? name).getD .null] := by
  obtain ⟨here, same⟩ := List.mem_filter.mp member
  have absent : ∀ d ∈ operands, ¬ d.hasKey names key := fun d member has =>
    new (List.any_eq_true.mpr ⟨d, member, has⟩)
  rw [← (sameKey_iff (plain r here)).mp same] at absent ⊢
  exact productOf_blank some_operand joined.columns _ absent

theorem keysOf_concat : keysOf names (operands ++ [d]) =
    keysOf names operands ++ d.rows.map (Row.key names) := by
  simp [keysOf]

theorem mem_iff_of_order {keys met : List (List Value)} {p : List Value → Bool} {key : List Value}
    (plain : ∀ k ∈ keys, PlainKey k) (plainMet : ∀ k ∈ met, PlainKey k)
    (order : distinctKeys keys = (distinctKeys met).filter p) (all : ∀ k ∈ met, p k) :
    key ∈ keys ↔ key ∈ met := by
  rw [← mem_distinctKeys plain, order, List.mem_filter, mem_distinctKeys plainMet]
  exact and_iff_left_of_imp (all key)

/-- In an inner or left join, a key that is new in the next dataset is not a key of the first one. -/
theorem new_not_admitted (equi : kind ≠ .cross) (partial_kind : kind ≠ .full)
    (some_operand : operands ≠ []) (plain : ∀ d ∈ operands, d.PlainKeys names)
    (new : key ∉ keysOf names operands) : ¬ kind.admits names (operands ++ [d]) key := by
  intro admitted
  apply new
  apply mem_keysOf_of_admits equi some_operand plain
  rw [admits_concat equi some_operand] at admitted
  cases kind with
  | cross => contradiction
  | full => contradiction
  | inner => exact (Bool.and_eq_true_iff.mp admitted).1
  | left => exact admitted

/-- A joined row either extends a row joined so far or stands next to NULLs. -/
theorem joinStep_cases (equi : kind ≠ .cross) (planned : StepOf names s d.layout step)
    (tabular : d.Tabular) {out : List Value}
    (member : out ∈ JoinPlan.joinStep kind step rows (d.rows.map Row.cells)) :
    (∃ cells ∈ rows, out ∈ extended names kind s d cells) ∨
      ∃ r ∈ d.rows, out = standing names s r := by
  rw [joinStep_eq equi planned tabular, List.mem_append] at member
  rcases member with left | right
  · exact .inl (List.mem_flatMap.mp left)
  · split at right
    · obtain ⟨r, here, rfl⟩ := List.mem_map.mp right
      exact .inr ⟨r, (List.mem_filter.mp here).1, rfl⟩
    · cases right

section

variable (planned : StepOf names s d.layout step)
  (columns : t.components = s.components ++ d.layout.others names)

include planned columns

theorem extended_plain (joined : Joined names kind operands s rows) :
    ∀ k ∈ (rows.flatMap (extended names kind s d)).map fun out => Row.key names ⟨t, out⟩, PlainKey k := by
  intro k member
  obtain ⟨out, here, rfl⟩ := List.mem_map.mp member
  obtain ⟨cells, inRows, made⟩ := List.mem_flatMap.mp here
  rw [extended_key planned columns (joined.width cells inRows) made]
  exact joined.plain cells inRows

/-- What a step gives for a key from the rows joined so far. -/
theorem extended_groups (some_operand : operands ≠ []) (joined : Joined names kind operands s rows)
    (key : List Value) :
    ((rows.flatMap (extended names kind s d)).filter fun out =>
        sameKey (Row.key names ⟨t, out⟩) key) =
      if kind.admits names operands key ∧ ¬ (kind = .inner ∧ ¬ d.hasKey names key) then
        productOf names (operands ++ [d]) key
      else [] := by
  have whole : ∀ cells ∈ rows, ∀ out ∈ extended names kind s d cells,
      sameKey (Row.key names ⟨t, out⟩) key = sameKey (Row.key names ⟨s, cells⟩) key :=
    fun cells member out made => by rw [extended_key planned columns (joined.width cells member) made]
  have same_key : (rows.filter fun cells => sameKey (Row.key names ⟨s, cells⟩) key).flatMap
      (extended names kind s d) =
      (rows.filter fun cells => sameKey (Row.key names ⟨s, cells⟩) key).flatMap fun cells =>
        if kind = .inner ∧ ¬ d.hasKey names key then []
        else (d.matchingOrNulls names key).map fun r => cells ++ r.others names := by
    refine List.flatMap_congr fun cells member => ?_
    obtain ⟨here, same⟩ := List.mem_filter.mp member
    rw [← (sameKey_iff (joined.plain cells here)).mp same]
    rfl
  rw [filter_flatMap_of_eq whole, same_key, joined.groups key, productOf_concat some_operand]
  by_cases admitted : kind.admits names operands key
  · by_cases dropped : kind = .inner ∧ ¬ d.hasKey names key
    · simp [dropped]
    · simp only [admitted, dropped, if_true, if_false, not_false_eq_true, and_self]
  · simp [admitted]

/-- In a full join, the rows that nothing matches give the product of the keys not met before. -/
theorem standing_groups (some_operand : operands ≠ []) (joined : Joined names .full operands s rows)
    (plain : d.PlainKeys names) (key : List Value) :
    (((unmatched names s d rows).map (standing names s)).filter fun out =>
        sameKey (Row.key names ⟨t, out⟩) key) =
      if ¬ JoinKind.full.admits names operands key ∧ d.hasKey names key then
        productOf names (operands ++ [d]) key
      else [] := by
  have of_key : (((unmatched names s d rows).map (standing names s)).filter fun out =>
      sameKey (Row.key names ⟨t, out⟩) key) =
      ((unmatched names s d rows).filter fun r => sameKey (r.key names) key).map
        (standing names s) := by
    rw [List.filter_map]
    congr 1
    refine List.filter_congr fun r _ => ?_
    simp only [Function.comp_apply, standing_key planned columns]
  rw [of_key]
  by_cases admitted : JoinKind.full.admits names operands key
  · rw [unmatched_of_met joined plain admitted]
    simp [admitted]
  · rw [unmatched_of_new joined plain admitted]
    by_cases present : d.hasKey names key
    · rw [if_pos ⟨admitted, present⟩, productOf_concat some_operand,
        matchingOrNulls_of_hasKey present]
      have only {r : Row} (member : r ∈ d.matching names key) :=
        productOf_new some_operand joined plain admitted member
      obtain ⟨first, member⟩ := List.exists_mem_of_ne_nil _ (hasKey_iff.mp present)
      rw [only member, List.flatMap_singleton]
      refine List.map_congr_left fun r here => ?_
      have blanks := List.cons.inj ((only here).symm.trans (only member))
      rw [standing, blanks.1]
    · rw [if_neg fun both => present both.2, not_not.mp (mt hasKey_iff.mpr present)]
      rfl

/-- The keys that the rows joined so far hand on. -/
theorem extended_order (joined : Joined names kind operands s rows) :
    distinctKeys ((rows.flatMap (extended names kind s d)).map fun out => Row.key names ⟨t, out⟩) =
      (distinctKeys (keysOf names operands)).filter fun key =>
        kind.admits names operands key && (kind != .inner || d.hasKey names key) := by
  have handed := distinctKeys_flatMap
    (p := fun key => kind != .inner || d.hasKey names key) joined.plain
    (fun cells member out made => extended_key planned columns (joined.width cells member) made)
    (fun cells _ => extended_ne_nil_iff)
  rw [handed, joined.order, List.filter_filter]
  refine List.filter_congr fun key _ => ?_
  rw [Bool.and_comm]

/-- In a full join, the rows that nothing matches bring the keys that are new. -/
theorem unmatched_keys (joined : Joined names .full operands s rows)
    (plain : ∀ d ∈ operands, d.PlainKeys names) (plainNext : d.PlainKeys names) :
    ((unmatched names s d rows).map (standing names s)).map (fun out => Row.key names ⟨t, out⟩) =
      (d.rows.map (Row.key names)).filter fun key =>
        !(keysOf names operands).any (sameKey key) := by
  have plainRows : ∀ k ∈ rows.map (fun cells => Row.key names ⟨s, cells⟩), PlainKey k :=
    List.forall_mem_map.mpr joined.plain
  have plainKeys := keysOf_plain plain
  have standing_keys : (fun out => Row.key names ⟨t, out⟩) ∘ standing names s = Row.key names :=
    funext fun r => standing_key planned columns
  rw [List.map_map, standing_keys, List.filter_map]
  congr 1
  refine List.filter_congr fun r here => ?_
  have met : Row.key names r ∈ rows.map (fun cells => Row.key names ⟨s, cells⟩) ↔
      Row.key names r ∈ keysOf names operands :=
    mem_iff_of_order plainRows plainKeys joined.order fun k member =>
      (any_hasKey_iff_mem plain).mpr member
  rw [← any_sameKey_iff (plainNext r here), ← any_sameKey_iff (plainNext r here),
    ← Bool.eq_iff_iff] at met
  rw [met]
  rfl

/-- A full join adds the keys that are new in the next dataset. -/
theorem full_order (some_operand : operands ≠ []) (joined : Joined names .full operands s rows)
    (plain : ∀ d ∈ operands, d.PlainKeys names) (plainNext : d.PlainKeys names) :
    distinctKeys ((rows.flatMap (extended names .full s d) ++
        (unmatched names s d rows).map (standing names s)).map fun out => Row.key names ⟨t, out⟩) =
      (distinctKeys (keysOf names (operands ++ [d]))).filter
        (JoinKind.full.admits names (operands ++ [d])) := by
  have plainKeys := keysOf_plain plain
  have plainLeft := extended_plain planned columns joined
  have handed := extended_order planned columns joined
  have all_met : ∀ key ∈ keysOf names operands, JoinKind.full.admits names operands key :=
    fun key member => (any_hasKey_iff_mem plain).mpr member
  have left_keys (key : List Value) : key ∈ (rows.flatMap (extended names .full s d)).map
      (fun out => Row.key names ⟨t, out⟩) ↔ key ∈ keysOf names operands :=
    mem_iff_of_order plainLeft plainKeys handed fun k member => by simp [all_met k member]
  rw [List.map_append, distinctKeys_append plainLeft, handed,
    unmatched_keys planned columns joined plain plainNext, keysOf_concat,
    distinctKeys_append plainKeys, List.filter_append]
  congr 1
  · refine List.filter_congr fun key member => ?_
    have met := all_met key ((mem_distinctKeys plainKeys).mp member)
    simp [admits_concat (d := d) (show JoinKind.full ≠ .cross from nofun) some_operand, met]
  · refine (congrArg distinctKeys (List.filter_eq_self.mpr fun key member => ?_)).trans
      (List.filter_eq_self.mpr fun key member => ?_).symm
    · obtain ⟨inNext, new⟩ := List.mem_filter.mp member
      rw [Bool.not_eq_true', any_sameKey_eq_false_iff (plainNext.keys key inNext)] at new ⊢
      exact fun met => new ((left_keys key).mp met)
    · obtain ⟨inNext, -⟩ := List.mem_filter.mp ((mem_distinctKeys (plainNext.filter _)).mp member)
      simp [admits_concat (d := d) (show JoinKind.full ≠ .cross from nofun) some_operand,
        (hasKey_iff_mem plainNext).mpr inNext]

end

section

variable (equi : kind ≠ .cross) (planned : StepOf names s d.layout step)
  (tabular : d.Tabular) (columns : t.components = s.components ++ d.layout.others names)

include equi planned tabular columns

theorem joinStep_width (width : ∀ cells ∈ rows, cells.length = s.size) :
    ∀ out ∈ JoinPlan.joinStep kind step rows (d.rows.map Row.cells), out.length = t.size := by
  have size : t.size = s.size + (d.layout.others names).length := by
    simp [Structure.size, columns]
  intro out member
  rcases joinStep_cases equi planned tabular member with ⟨cells, here, made⟩ | ⟨r, here, rfl⟩
  · unfold extended at made
    split at made
    · cases made
    · obtain ⟨r, inRows, rfl⟩ := List.mem_map.mp made
      obtain ⟨own, full⟩ := matchingOrNulls_tabular tabular inRows
      rw [List.length_append, width cells here, length_others_of_tabular own full, size]
  · obtain ⟨own, full⟩ := tabular r here
    rw [standing, List.length_append, length_others_of_tabular own full, size]
    congr 1
    exact List.length_map _

theorem joinStep_plain (joined : Joined names kind operands s rows) (plain : d.PlainKeys names) :
    ∀ out ∈ JoinPlan.joinStep kind step rows (d.rows.map Row.cells),
      PlainKey (Row.key names ⟨t, out⟩) := by
  intro out member
  rcases joinStep_cases equi planned tabular member with ⟨cells, here, made⟩ | ⟨r, here, rfl⟩
  · rw [extended_key planned columns (joined.width cells here) made]
    exact joined.plain cells here
  · rw [standing_key planned columns]
    exact plain r here

theorem joinStep_groups (some_operand : operands ≠ []) (joined : Joined names kind operands s rows)
    (plain : d.PlainKeys names) (key : List Value) :
    ((JoinPlan.joinStep kind step rows (d.rows.map Row.cells)).filter fun out =>
        sameKey (Row.key names ⟨t, out⟩) key) =
      if kind.admits names (operands ++ [d]) key then productOf names (operands ++ [d]) key else [] := by
  rw [joinStep_eq equi planned tabular, List.filter_append,
    extended_groups planned columns some_operand joined key, admits_concat equi some_operand]
  cases kind with
  | cross => contradiction
  | inner => simp
  | left => simp
  | full =>
    rw [if_pos rfl, standing_groups planned columns some_operand joined plain key]
    by_cases admitted : JoinKind.full.admits names operands key <;> simp [admitted]

theorem joinStep_order (some_operand : operands ≠ []) (joined : Joined names kind operands s rows)
    (plain : ∀ d ∈ operands, d.PlainKeys names) (plainNext : d.PlainKeys names) :
    distinctKeys ((JoinPlan.joinStep kind step rows (d.rows.map Row.cells)).map fun out =>
        Row.key names ⟨t, out⟩) =
      (distinctKeys (keysOf names (operands ++ [d]))).filter
        (kind.admits names (operands ++ [d])) := by
  rw [joinStep_eq equi planned tabular]
  by_cases full : kind = .full
  · subst full
    rw [if_pos rfl, full_order planned columns some_operand joined plain plainNext]
  · have none_new : (distinctKeys ((d.rows.map (Row.key names)).filter fun key =>
        !(keysOf names operands).any (sameKey key))).filter (kind.admits names (operands ++ [d])) = [] := by
      refine List.filter_eq_nil_iff.mpr fun key member => ?_
      obtain ⟨inNext, new⟩ := List.mem_filter.mp ((mem_distinctKeys (plainNext.filter _)).mp member)
      rw [Bool.not_eq_true', any_sameKey_eq_false_iff (plainNext.keys key inNext)] at new
      exact new_not_admitted equi full some_operand plain new
    rw [if_neg full, List.append_nil, extended_order planned columns joined, keysOf_concat,
      distinctKeys_append (keysOf_plain plain), List.filter_append, none_new, List.append_nil]
    refine List.filter_congr fun key _ => ?_
    rw [admits_concat equi some_operand]
    cases kind with
    | cross => contradiction
    | full => contradiction
    | inner => rfl
    | left => simp

theorem joined_step (some_operand : operands ≠ []) (joined : Joined names kind operands s rows)
    (plain : ∀ d ∈ operands, d.PlainKeys names) (plainNext : d.PlainKeys names) :
    Joined names kind (operands ++ [d]) t
      (JoinPlan.joinStep kind step rows (d.rows.map Row.cells)) where
  columns := by rw [columns, joined.columns, joinedColumns_concat some_operand]
  width := joinStep_width equi planned tabular columns joined.width
  plain := joinStep_plain equi planned tabular columns joined plainNext
  groups := joinStep_groups equi planned tabular columns some_operand joined plainNext
  order := joinStep_order equi planned tabular columns some_operand joined plain plainNext

end

end

/-! ### All steps -/

theorem joinRows_joined {kind : JoinKind} {operands : List Dataset} {s last : Structure}
    {rows : List (List Value)} {rest : List (String × Dataset)} {steps : List JoinStep}
    (equi : kind ≠ .cross)
    (planned : JoinPlan.planSteps kind names s (rest.map fun o => (o.1, o.2.layout)) = .ok (steps, last))
    (some_operand : operands ≠ []) (joined : Joined names kind operands s rows)
    (plain : ∀ d ∈ operands, d.PlainKeys names) (tabular : ∀ o ∈ rest, o.2.Tabular)
    (plainRest : ∀ o ∈ rest, o.2.PlainKeys names) :
    Joined names kind (operands ++ rest.map (·.2)) last
      (JoinPlan.joinRows kind rows (steps.zip (rest.map fun o => o.2.rows.map Row.cells))) := by
  induction rest generalizing operands s rows steps with
  | nil =>
    cases planned
    rw [List.map_nil, List.append_nil]
    exact joined
  | cons next rest ih =>
    obtain ⟨label, d⟩ := next
    obtain ⟨t, _, later, appended, step, plannedRest, rfl⟩ := planSteps_cons planned
    have columns := appendColumns_ok equi appended
    have plainNext := plainRest _ List.mem_cons_self
    have one_more := joined_step equi step (tabular _ List.mem_cons_self) columns some_operand joined
      plain plainNext
    have all := ih plannedRest (by simp) one_more
      (fun d' member => (List.mem_append.mp member).elim (plain d') fun here => by
        rw [List.mem_singleton.mp here]
        exact plainNext)
      (fun o member => tabular o (List.mem_cons_of_mem _ member))
      (fun o member => plainRest o (List.mem_cons_of_mem _ member))
    rw [List.append_assoc] at all
    exact all

/-- An inner, left or full join gives, for every key that it is about, the product of the rows that
its operands have for the key, and meets the keys in the order in which the operands do. -/
theorem join_eq_products {kind : JoinKind} {operands : List (String × Dataset)}
    {keys : List Component} {plan : JoinPlan} (equi : kind ≠ .cross)
    (planned : JoinPlan.ofOperands kind (operands.map fun o => (o.1, o.2.layout)) keys = .ok plan)
    (tabular : ∀ o ∈ operands, o.2.Tabular)
    (plain : ∀ o ∈ operands, o.2.PlainKeys (keys.map Component.name)) :
    ∃ rows, Query.layRows plan.layout
          (plan.execute (operands.map fun o => o.2.rows.map Row.cells)) = .ok ⟨plan.layout, rows⟩ ∧
      (rows.map Row.cells).Perm
        (((distinctKeys (keysOf (keys.map Component.name) (operands.map (·.2)))).filter
          (kind.admits (keys.map Component.name) (operands.map (·.2)))).flatMap
            (productOf (keys.map Component.name) (operands.map (·.2)))) ∧
      distinctKeys (rows.map (Row.key (keys.map Component.name))) =
        (distinctKeys (keysOf (keys.map Component.name) (operands.map (·.2)))).filter
          (kind.admits (keys.map Component.name) (operands.map (·.2))) := by
  cases operands with
  | nil => cases planned
  | cons first rest =>
    obtain ⟨label, d⟩ := first
    obtain ⟨planKind, steps, layout⟩ := plan
    obtain ⟨same_kind, -, plannedSteps⟩ := ofOperands_cons planned
    rw [if_neg equi] at plannedSteps
    dsimp only at same_kind
    subst same_kind
    have start := joined_first equi (tabular _ List.mem_cons_self) (plain _ List.mem_cons_self)
    have joined := joinRows_joined equi plannedSteps (List.cons_ne_nil _ _) start
      (fun d' member => by
        rw [List.mem_singleton.mp member]
        exact plain _ List.mem_cons_self)
      (fun o member => tabular o (List.mem_cons_of_mem _ member))
      (fun o member => plain o (List.mem_cons_of_mem _ member))
    refine ⟨_, layRows_of_width joined.width, ?_, ?_⟩
    · have by_key := perm_flatMap_filter joined.plain
      rw [joined.order] at by_key
      rw [List.map_map, show Row.cells ∘ Row.mk layout = id from rfl, List.map_id]
      refine by_key.trans (List.Perm.of_eq (List.flatMap_congr fun key member => ?_))
      rw [joined.groups key, if_pos (List.mem_filter.mp member).2]
      rfl
    · rw [List.map_map]
      exact joined.order

namespace Joining

def idColumn : Component := ⟨"id", .string, .identifier⟩

def withX : Structure := ⟨[idColumn, ⟨"x", .integer, .measure⟩], by decide⟩

def withY : Structure := ⟨[idColumn, ⟨"y", .integer, .measure⟩], by decide⟩

def withXY : Structure :=
  ⟨[idColumn, ⟨"x", .integer, .measure⟩, ⟨"y", .integer, .measure⟩], by decide⟩

def operands : List (String × Dataset) :=
  [("a", ⟨withX, [⟨withX, [.string "1", .integer 10]⟩, ⟨withX, [.string "2", .integer 20]⟩]⟩),
    ("b", ⟨withY, [⟨withY, [.string "2", .integer 200]⟩, ⟨withY, [.string "3", .integer 300]⟩]⟩)]

def plan : JoinPlan := ⟨.full, [⟨[0], [0], [1], 2⟩], withXY⟩

end Joining

open Joining in
theorem full_join_keeps_unmatched :
    ∃ rows, Query.layRows withXY (plan.execute (operands.map fun o => o.2.rows.map Row.cells)) =
        .ok ⟨withXY, rows⟩ ∧
      (rows.map Row.cells).Perm [[.string "1", .integer 10, .null],
        [.string "2", .integer 20, .integer 200], [.string "3", .null, .integer 300]] ∧
      distinctKeys (rows.map (Row.key ["id"])) = [[.string "1"], [.string "2"], [.string "3"]] := by
  have planned : JoinPlan.ofOperands .full (operands.map fun o => (o.1, o.2.layout)) [idColumn] =
      .ok plan := rfl
  have tabular : ∀ o ∈ operands, o.2.Tabular := by
    simp [operands, Dataset.Tabular, Row.WellFormed, Structure.size, withX, withY]
  have plain : ∀ o ∈ operands, o.2.PlainKeys ["id"] := by
    simp only [operands, Dataset.PlainKeys, PlainKey, List.forall_mem_cons]
    decide
  have keys : (distinctKeys (keysOf ["id"] (operands.map (·.2)))).filter
      (JoinKind.full.admits ["id"] (operands.map (·.2))) =
      [[.string "1"], [.string "2"], [.string "3"]] := by cbv
  have products : [[.string "1"], [.string "2"], [.string "3"]].flatMap
      (productOf ["id"] (operands.map (·.2))) = [[.string "1", .integer 10, .null],
        [.string "2", .integer 20, .integer 200], [.string "3", .null, .integer 300]] := by cbv
  have joined := join_eq_products (by decide) planned tabular plain
  simp only [List.map_cons, List.map_nil, idColumn, keys, products] at joined
  exact joined

end DatasetScript
