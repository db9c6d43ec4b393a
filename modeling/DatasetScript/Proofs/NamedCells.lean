import DatasetScript.Proofs.Rows
import Mathlib.Data.List.Nodup
/-!
# Rows made of named cells

A row is made by writing cells one after the other at the places of their columns. Main statements:
`ofEntries_eq` gives the cells of such a row, and `ofEntries_of_perm` makes a row again from its own
cells in any order.
-/

namespace DatasetScript

/-- The last value that entries hold under a name, NULL without one. -/
def lastCell (entries : List (String × Value)) (name : String) : Value :=
  (Assoc.find? entries.reverse name).getD .null

/-- The cell under each name after entries are written over it. -/
def overwrite (cell : String → Value) (entries : List (String × Value)) : String → Value :=
  entries.foldl (fun cell entry => Function.update cell entry.1 entry.2) cell

section

variable {layout : Structure} {entries : List (String × Value)}

/-! ### Writing cells -/

theorem set_of_cells (cell : String → Value) {name : String} (known : name ∈ layout.names)
    (v : Value) : Row.set ⟨layout, layout.names.map cell⟩ name v =
      .ok ⟨layout, layout.names.map (Function.update cell name v)⟩ := by
  obtain ⟨i, place, here⟩ := Structure.exists_indexOf?_of_mem known
  obtain ⟨bound, same⟩ := List.getElem?_eq_some_iff.mp here
  have distinct : layout.names.Nodup := layout.nodup
  have first : layout.names.idxOf name = i := by
    rw [← same, distinct.idxOf_getElem i bound]
  rw [distinct.map_update, if_pos known, first]
  unfold Row.set
  rw [Structure.place_of_indexOf? place]
  rfl

theorem setAll_of_cells (cell : String → Value) (known : ∀ entry ∈ entries, entry.1 ∈ layout.names) :
    Row.setAll ⟨layout, layout.names.map cell⟩ entries =
      .ok ⟨layout, layout.names.map (overwrite cell entries)⟩ := by
  induction entries generalizing cell with
  | nil => rfl
  | cons entry rest ih =>
    obtain ⟨name, v⟩ := entry
    obtain ⟨first, later⟩ := List.forall_mem_cons.mp known
    unfold Row.setAll
    rw [set_of_cells cell first v, ok_bind, ih _ later]
    rfl

theorem overwrite_eq (cell : String → Value) (entries : List (String × Value)) (name : String) :
    overwrite cell entries name = (Assoc.find? entries.reverse name).getD (cell name) := by
  induction entries generalizing cell with
  | nil => rfl
  | cons entry rest ih =>
    obtain ⟨key, v⟩ := entry
    change overwrite (Function.update cell key v) rest name = _
    rw [ih, List.reverse_cons, Assoc.find?_append, Assoc.find?_cons]
    cases found : Assoc.find? rest.reverse name with
    | some w => rfl
    | none =>
      by_cases same : key = name
      · subst same
        simp
      · simp [same, Function.update_of_ne (Ne.symm same)]

/-- The row has a cell for each column, the last that is named for it. -/
theorem ofEntries_eq (known : ∀ entry ∈ entries, entry.1 ∈ layout.names) :
    Row.ofEntries layout entries = .ok ⟨layout, layout.names.map (lastCell entries)⟩ := by
  have nulls : Row.nulls layout = ⟨layout, layout.names.map fun _ => .null⟩ := by
    rw [Row.nulls, List.map_const', Structure.names, List.length_map]
    rfl
  have last : overwrite (fun _ => .null) entries = lastCell entries := by
    funext name
    exact overwrite_eq _ entries name
  unfold Row.ofEntries
  rw [nulls, setAll_of_cells _ known, last]

/-! ### The cells of a row -/

theorem get?_map_names (cell : String → Value) {name : String} (known : name ∈ layout.names) :
    Row.get? ⟨layout, layout.names.map cell⟩ name = some (cell name) := by
  obtain ⟨i, place, here⟩ := Structure.exists_indexOf?_of_mem known
  simp [Row.get?, place, here]

theorem find?_zip_cells {names : List String} {cells : List Value} (distinct : names.Nodup)
    (width : cells.length = names.length) :
    names.map (fun name => (Assoc.find? (names.zip cells) name).getD .null) = cells := by
  induction names generalizing cells with
  | nil => exact (List.length_eq_zero_iff.mp width).symm
  | cons name rest ih =>
    obtain ⟨v, others, rfl⟩ := List.exists_cons_of_length_eq_add_one width
    obtain ⟨fresh, distinct⟩ := List.nodup_cons.mp distinct
    have later := ih distinct (Nat.succ.inj width)
    have unmoved : rest.map (fun other =>
        (Assoc.find? ((name, v) :: rest.zip others) other).getD .null) =
          rest.map fun other => (Assoc.find? (rest.zip others) other).getD .null := by
      refine List.map_congr_left fun other member => ?_
      have different : name ≠ other := fun same => fresh (same ▸ member)
      rw [Assoc.find?_cons, if_neg different]
    rw [List.zip_cons_cons, List.map_cons, unmoved, later, Assoc.find?_cons, if_pos rfl,
      Option.getD_some]

theorem names_entries {r : Row} (width : r.WellFormed) : Assoc.names r.entries = r.layout.names := by
  refine List.map_fst_zip ?_
  rw [width, Structure.names, List.length_map]
  exact Nat.le.refl

theorem names_entries_nodup {r : Row} (width : r.WellFormed) : (Assoc.names r.entries).Nodup := by
  rw [names_entries width]
  exact r.layout.nodup

/-- What holds of the cells and their columns holds of the named cells. -/
theorem entry_of_cells {R : Value → Component → Prop} {r : Row} {entry : String × Value}
    (each : List.Forall₂ R r.cells r.layout.components) (member : entry ∈ r.entries) :
    ∃ c ∈ r.layout.components, c.name = entry.1 ∧ R entry.2 c := by
  unfold Row.entries Structure.names at member
  rw [List.zip_map_left] at member
  obtain ⟨⟨c, v⟩, here, rfl⟩ := List.mem_map.mp member
  exact ⟨c, (List.of_mem_zip here).1, rfl, (List.forall₂_iff_zip.mp each.flip).2 here⟩

/-- The named cells of a row make it again, in whatever order they come. -/
theorem ofEntries_of_perm {r : Row} (width : r.WellFormed) (perm : entries.Perm r.entries) :
    Row.ofEntries r.layout entries = .ok r := by
  have known : ∀ entry ∈ entries, entry.1 ∈ r.layout.names := by
    intro entry member
    rw [← names_entries width]
    exact List.mem_map.mpr ⟨entry, perm.mem_iff.mp member, rfl⟩
  have backwards := (List.reverse_perm entries).trans perm
  have same : lastCell entries = fun name => (Assoc.find? r.entries name).getD .null := by
    funext name
    unfold lastCell
    rw [Assoc.find?_perm (names_entries_nodup width) backwards.symm]
  have onCells : r.cells.length = r.layout.names.length := by
    rw [width, Structure.names, List.length_map, Structure.size]
  have cells : r.layout.names.map (fun name => (Assoc.find? r.entries name).getD .null) = r.cells :=
    find?_zip_cells r.layout.nodup onCells
  rw [ofEntries_eq known, same, cells]
  cases r
  rfl

end

end DatasetScript
