import DatasetScript.Relational.Rows
import DatasetScript.Proofs.Columns
/-!
# Rows and the datasets made of them

Main statements: `layRows_eq_ok_iff` says when rows of cells can be laid out by a structure and what
comes of it, `conform_layout` that a bound dataset takes on the declared column order.
-/

namespace DatasetScript

namespace Dataset

/-- The dataset and each of its rows have the columns of the structure in its order. -/
def LaidOutBy (d : Dataset) (s : Structure) : Prop :=
  d.layout = s ∧ ∀ r ∈ d.rows, r.layout = s

/-- Every row is laid out like the dataset, with one cell for each column. -/
def Tabular (d : Dataset) : Prop := ∀ r ∈ d.rows, r.layout = d.layout ∧ r.WellFormed

theorem tabular_singleton {r : Row} (width : r.WellFormed) : Tabular ⟨r.layout, [r]⟩ := by
  intro r' member
  obtain rfl := List.mem_singleton.mp member
  exact ⟨rfl, width⟩

end Dataset

/-- The dataset that a query gives in an environment, if any, and its rows have the structure of the
query. -/
def Query.BoundIn (q : Query) (env : Env) : Prop :=
  ∀ d, q.run env = .ok d → d.layout = q.layout ∧ d.Tabular

/-! ### Cells and their columns -/

theorem cell_at {R : Value → Component → Prop} {cells : List Value} {columns : List Component}
    {i : Nat} {c : Component} (each : List.Forall₂ R cells columns) (here : columns[i]? = some c) :
    ∃ v, cells[i]? = some v ∧ R v c := by
  induction each generalizing i with
  | nil => cases here
  | cons first others ih =>
    cases i with
    | zero =>
      cases here
      exact ⟨_, rfl, first⟩
    | succ i => exact ih here

theorem get?_of_cells {R : Value → Component → Prop} {r : Row} {name : String} {c : Component}
    (each : List.Forall₂ R r.cells r.layout.components) (found : r.layout.get? name = some c) :
    ∃ v, r.get? name = some v ∧ R v c := by
  obtain ⟨i, place, here⟩ := Structure.exists_indexOf? found
  obtain ⟨v, held, holds⟩ := cell_at each here
  exact ⟨v, by simp [Row.get?, place, held], holds⟩

theorem get?_isSome {r : Row} {name : String} (width : r.WellFormed) (known : name ∈ r.layout.names) :
    (r.get? name).isSome := by
  obtain ⟨i, place, here⟩ := Structure.exists_indexOf?_of_mem known
  have bound : i < r.cells.length := by
    obtain ⟨onNames, -⟩ := List.getElem?_eq_some_iff.mp here
    rwa [Structure.names, List.length_map, ← Structure.size, ← width] at onNames
  simp [Row.get?, place, List.getElem?_eq_getElem bound]

/-! ### Laying out cells -/

theorem ofCells_eq_ok_iff {s : Structure} {cells : List Value} {r : Row} :
    Row.ofCells s cells = .ok r ↔ cells.length = s.size ∧ r = ⟨s, cells⟩ := by
  unfold Row.ofCells
  split
  · rename_i width
    simp [width, eq_comm]
  · rename_i width
    simp [width]

theorem layRows_of_width {s : Structure} {rows : List (List Value)}
    (width : ∀ cells ∈ rows, cells.length = s.size) :
    Query.layRows s rows = .ok ⟨s, rows.map (Row.mk s)⟩ := by
  unfold Query.layRows Dataset.ofCells
  rw [mapM_of_forall fun cells member => ofCells_eq_ok_iff.mpr ⟨width cells member, rfl⟩]
  rfl

theorem layRows_eq_ok_iff {s : Structure} {rows : List (List Value)} {d : Dataset} :
    Query.layRows s rows = .ok d ↔
      (∀ cells ∈ rows, cells.length = s.size) ∧ d = ⟨s, rows.map (Row.mk s)⟩ := by
  constructor
  · intro h
    have width : ∀ cells ∈ rows, cells.length = s.size := by
      unfold Query.layRows Dataset.ofCells at h
      obtain ⟨laid, each, -⟩ := bind_ok h
      intro cells member
      obtain ⟨r, -, made⟩ := mapM_each each member
      exact (ofCells_eq_ok_iff.mp made).1
    rw [layRows_of_width width] at h
    exact ⟨width, (Except.ok.inj h).symm⟩
  · rintro ⟨width, rfl⟩
    exact layRows_of_width width

theorem layRows_laidOut {s : Structure} {rows : List (List Value)} {d : Dataset}
    (h : Query.layRows s rows = .ok d) : d.LaidOutBy s := by
  obtain ⟨-, rfl⟩ := layRows_eq_ok_iff.mp h
  refine ⟨rfl, fun r member => ?_⟩
  obtain ⟨cells, -, rfl⟩ := List.mem_map.mp member
  rfl

/-- The rows of a dataset with their cells as they are, under another structure. -/
def Dataset.relabel (layout : Structure) (d : Dataset) : Dataset :=
  ⟨layout, d.rows.map fun r => ⟨layout, r.cells⟩⟩

theorem relabel_self {d : Dataset} (tabular : d.Tabular) : d.relabel d.layout = d := by
  have rows : d.rows.map (fun r => (⟨d.layout, r.cells⟩ : Row)) = d.rows := by
    refine (List.map_congr_left fun r member => ?_).trans (List.map_id d.rows)
    rw [← (tabular r member).1]
    cases r
    rfl
  rw [Dataset.relabel, rows]
  cases d
  rfl

/-- Laying out the cells of a dataset by as many columns. -/
theorem layRows_relabel {s : Structure} {d : Dataset} (tabular : d.Tabular)
    (width : d.layout.size = s.size) :
    Query.layRows s (d.rows.map Row.cells) = .ok (d.relabel s) := by
  have widths : ∀ cells ∈ d.rows.map Row.cells, cells.length = s.size := by
    refine List.forall_mem_map.mpr fun r member => ?_
    obtain ⟨own, width'⟩ := tabular r member
    rw [width', own, width]
  rw [layRows_of_width widths, List.map_map]
  rfl

/-! ### Rows from named cells -/

theorem set_layout {r t : Row} {name : String} {v : Value} (h : r.set name v = .ok t) :
    t.layout = r.layout := by
  unfold Row.set at h
  obtain ⟨i, -, h⟩ := bind_ok h
  rw [pure_ok h]

/-- What each cell that is set leaves true is true once all are set. -/
theorem setAll_induction {r t : Row} {entries : List (String × Value)} {motive : Row → Prop}
    (h : r.setAll entries = .ok t) (start : motive r)
    (step : ∀ {r t : Row} {name : String} {v : Value}, r.set name v = .ok t → motive r → motive t) :
    motive t := by
  induction entries generalizing r with
  | nil =>
    rw [← Except.ok.inj h]
    exact start
  | cons entry rest ih =>
    unfold Row.setAll at h
    obtain ⟨next, first, h⟩ := bind_ok h
    exact ih h (step first start)

theorem setAll_layout {r t : Row} {entries : List (String × Value)}
    (h : r.setAll entries = .ok t) : t.layout = r.layout :=
  setAll_induction (motive := fun s => s.layout = r.layout) h rfl fun set same =>
    (set_layout set).trans same

theorem ofEntries_laidOut {s : Structure} {rows : List (List (String × Value))} {d : Dataset}
    (h : Dataset.ofEntries s rows = .ok d) : d.LaidOutBy s := by
  unfold Dataset.ofEntries at h
  obtain ⟨laid, each, h⟩ := bind_ok h
  rw [pure_ok h]
  refine ⟨rfl, fun r member => ?_⟩
  obtain ⟨entries, -, made⟩ := mapM_member each member
  exact setAll_layout made

theorem conform_layout {declared : Structure} {name : String} {d c : Dataset}
    (uniform : ∀ r ∈ d.rows, r.layout = d.layout) (h : d.conform declared name = .ok c) :
    c.LaidOutBy declared := by
  unfold Dataset.conform at h
  split at h
  · cases h
  · rename_i compatible
    split at h
    · rename_i names
      have same := Structure.eq_of_isCompatibleWith (by simpa using compatible) names
      rw [← Except.ok.inj h, ← same]
      exact ⟨rfl, uniform⟩
    · exact ofEntries_laidOut h

end DatasetScript
