import DatasetScript.Proofs.JoinColumns
import DatasetScript.Proofs.NamedCells
/-!
# Columns in another order

A row is arranged by a structure when it has the columns of the structure, each with the cell that
stood under its name. Main statements: `get?_arranged` reads an arranged row by name, `conform_eq` says
that a bound dataset is arranged by the declared structure.
-/

namespace DatasetScript

/-- The row with the columns of a structure, each cell under its name. -/
def Row.arranged (s : Structure) (r : Row) : Row := ⟨s, r.key s.names⟩

def Dataset.arranged (s : Structure) (d : Dataset) : Dataset := ⟨s, d.rows.map (Row.arranged s)⟩

section

variable {s t : Structure} {r : Row} {d : Dataset} {name : String} {names : List String}
  {places : List Nat}

/-! ### Arranged rows -/

theorem arranged_wellFormed (s : Structure) (r : Row) : (r.arranged s).WellFormed := by
  simp [Row.WellFormed, Row.arranged, Row.key, Structure.names, Structure.size]

theorem get?_arranged (known : name ∈ s.names) :
    (r.arranged s).get? name = some ((r.get? name).getD .null) :=
  get?_map_names _ known

theorem get?_eq_none (unknown : name ∉ r.layout.names) : r.get? name = none := by
  rw [Row.get?, Structure.indexOf?_eq_none unknown]
  rfl

/-- A column that the row has is passed on. -/
theorem get?_arranged_of_mem (width : r.WellFormed) (held : name ∈ r.layout.names)
    (known : name ∈ s.names) : (r.arranged s).get? name = r.get? name := by
  obtain ⟨v, found⟩ := Option.isSome_iff_exists.mp (get?_isSome width held)
  rw [get?_arranged known, found]
  rfl

/-- A row with the same columns in another order holds the same under every name. -/
theorem get?_arranged_of_isCompatibleWith (width : r.WellFormed)
    (same : r.layout.isCompatibleWith s) : (r.arranged s).get? = r.get? := by
  funext name
  by_cases known : name ∈ s.names
  · exact get?_arranged_of_mem width ((Structure.mem_names_of_isCompatibleWith same).mpr known) known
  · have unheld : name ∉ r.layout.names := fun held =>
      known ((Structure.mem_names_of_isCompatibleWith same).mp held)
    rw [get?_eq_none unheld]
    exact get?_eq_none known

theorem key_arranged (within : ∀ name ∈ names, name ∈ s.names) :
    (r.arranged s).key names = r.key names := by
  refine List.map_congr_left fun name member => ?_
  rw [get?_arranged (within name member), Option.getD_some]

theorem arranged_arranged (within : ∀ name ∈ t.names, name ∈ s.names) :
    (r.arranged s).arranged t = r.arranged t := by
  rw [Row.arranged, key_arranged within]
  rfl

/-- Cells that are picked by place are those under the names. -/
theorem pick_key (placed : names.mapM r.layout.place = .ok places) : r.pick places = r.key names := by
  have cells : r.pick places = Row.key names ⟨r.layout, r.cells⟩ := cellsAt_key placed
  rw [cells, key_eq_of_layout rfl]

/-- The named cells of a row are the cells under its names. -/
theorem find?_entries (width : r.WellFormed) (name : String) :
    Assoc.find? r.entries name = r.get? name := by
  cases found : Assoc.find? r.entries name with
  | some v =>
    have member := (Assoc.find?_eq_some_iff (names_entries_nodup width)).mp found
    exact (get?_of_mem_entries member).symm
  | none =>
    rw [Assoc.find?_eq_none_iff, names_entries width] at found
    exact (get?_eq_none found).symm

theorem key_names (width : r.WellFormed) : r.key r.layout.names = r.cells := by
  have onCells : r.cells.length = r.layout.names.length := by
    rw [width, Structure.names, List.length_map, Structure.size]
  have cells := find?_zip_cells r.layout.nodup onCells
  refine Eq.trans (List.map_congr_left fun name _ => ?_) cells
  rw [← find?_entries width]
  rfl

theorem arranged_self (width : r.WellFormed) : r.arranged r.layout = r := by
  rw [Row.arranged, key_names width]
  cases r
  rfl

/-! ### Arranged datasets -/

theorem arranged_tabular (s : Structure) (d : Dataset) : (d.arranged s).Tabular := by
  intro r member
  obtain ⟨given, -, rfl⟩ := List.mem_map.mp member
  exact ⟨rfl, arranged_wellFormed s given⟩

theorem Dataset.arranged_self (tabular : d.Tabular) : d.arranged d.layout = d := by
  have rows : d.rows.map (Row.arranged d.layout) = d.rows := by
    refine (List.map_congr_left fun r member => ?_).trans (List.map_id d.rows)
    rw [← (tabular r member).1]
    exact DatasetScript.arranged_self (tabular r member).2
  rw [Dataset.arranged, rows]
  cases d
  rfl

theorem Dataset.arranged_arranged (within : ∀ name ∈ t.names, name ∈ s.names) :
    (d.arranged s).arranged t = d.arranged t := by
  have rows : (d.rows.map (Row.arranged s)).map (Row.arranged t) = d.rows.map (Row.arranged t) := by
    rw [List.map_map]
    exact List.map_congr_left fun r _ => DatasetScript.arranged_arranged within
  exact congrArg (Dataset.mk t) rows

/-- Cells that are looked up under the names of a structure are laid out by it. -/
theorem layRows_arranged (s : Structure) (rows : List Row) :
    Query.layRows s (rows.map (Row.key s.names)) = .ok ⟨s, rows.map (Row.arranged s)⟩ := by
  have width : ∀ cells ∈ rows.map (Row.key s.names), cells.length = s.size := by
    refine List.forall_mem_map.mpr fun r _ => ?_
    exact arranged_wellFormed s r
  rw [layRows_of_width width, List.map_map]
  rfl

theorem layRows_pick (tabular : d.Tabular) (placed : s.names.mapM d.layout.place = .ok places) :
    Query.layRows s (d.rows.map (·.pick places)) = .ok (d.arranged s) := by
  have cells : d.rows.map (·.pick places) = d.rows.map (Row.key s.names) := by
    refine List.map_congr_left fun r member => pick_key ?_
    rw [(tabular r member).1, placed]
  rw [cells]
  exact layRows_arranged s d.rows

/-! ### Bound datasets -/

/-- A row of its named cells in a structure with their columns. -/
theorem ofEntries_entries (width : r.WellFormed) (known : ∀ name ∈ r.layout.names, name ∈ s.names) :
    Row.ofEntries s r.entries = .ok (r.arranged s) := by
  have distinct := names_entries_nodup width
  have last : lastCell r.entries = fun name => (r.get? name).getD .null := by
    funext name
    rw [lastCell, ← Assoc.find?_perm distinct (List.reverse_perm r.entries).symm, find?_entries width]
  have entries : ∀ entry ∈ r.entries, entry.1 ∈ s.names := fun entry member => by
    refine known entry.1 ?_
    rw [← names_entries width]
    exact List.mem_map_of_mem member
  rw [ofEntries_eq entries, last]
  rfl

/-- A bound dataset with the declared columns takes on their order. -/
theorem conform_eq (tabular : d.Tabular) (same : d.layout.isCompatibleWith s) :
    d.conform s name = .ok (d.arranged s) := by
  unfold Dataset.conform
  rw [same]
  split
  · contradiction
  split
  · rename_i names
    rw [← Structure.eq_of_isCompatibleWith same names, Dataset.arranged_self tabular]
  · have rows : (d.rows.map Row.entries).mapM (Row.ofEntries s) = .ok (d.rows.map (Row.arranged s)) := by
      rw [List.mapM_map]
      refine mapM_of_forall fun r member => ?_
      obtain ⟨own, width⟩ := tabular r member
      refine ofEntries_entries width fun name held => ?_
      rw [own] at held
      exact (Structure.mem_names_of_isCompatibleWith same).mp held
    unfold Dataset.ofEntries
    rw [rows]
    rfl

theorem conform_error (other : ¬ d.layout.isCompatibleWith s) :
    d.conform s name = .error (.typeMismatch (.columns s.names) (.columns d.layout.names) name) := by
  unfold Dataset.conform
  rw [if_pos (by simpa using other)]

end

end DatasetScript
