import DatasetScript.Proofs.Arranging
import DatasetScript.Proofs.ColumnPlaces
import DatasetScript.Proofs.Distribution
/-!
# Rows by name

Rows are made from named cells and give them back. Main statements: `rows_rebuilt_from_entries` makes a
row again through any order of its columns. `equal_rows_by_name_iff` says when equal rows hold equal
cells under every name: structures are equal in any order of their columns, but cells are compared place
by place.
-/

namespace DatasetScript

section

variable {s t : Structure} {r p q : Row} {name : String} {entries : List (String × Value)} {e : Error}

/-! ### Unknown columns -/

/-- Writing cells stops at the first name that is not a column. -/
theorem setAll_of_unknown
    (first : (Assoc.names entries).find? (· ∉ r.layout.names) = some name) :
    r.setAll entries = .error (.unknownColumn name) := by
  induction entries generalizing r with
  | nil => cases first
  | cons entry rest ih =>
    obtain ⟨key, v⟩ := entry
    unfold Row.setAll Row.set
    change List.find? _ (key :: Assoc.names rest) = some name at first
    by_cases known : key ∈ r.layout.names
    · obtain ⟨i, place⟩ := Structure.exists_place known
      rw [List.find?_cons_of_neg (by simpa using known)] at first
      rw [place]
      exact ih first
    · rw [List.find?_cons_of_pos (by simpa using known)] at first
      rw [Structure.place_of_unknown known, Option.some.inj first]
      rfl

theorem ofEntries_error_iff : Row.ofEntries s entries = .error e ↔
    ∃ name, (Assoc.names entries).find? (· ∉ s.names) = some name ∧ e = .unknownColumn name := by
  cases first : (Assoc.names entries).find? (· ∉ s.names) with
  | none =>
    have known : ∀ entry ∈ entries, entry.1 ∈ s.names := by
      simpa [Assoc.names] using first
    simp [ofEntries_eq known]
  | some name =>
    rw [Row.ofEntries, setAll_of_unknown (r := Row.nulls s) first]
    simp [eq_comm]

/-! ### Rows made again -/

/-- The named cells of a row, laid out in another order and back, make the row again. -/
theorem ofEntries_back (width : p.WellFormed) (same : p.layout.isCompatibleWith t) :
    Row.ofEntries t p.entries = .ok (p.arranged t) ∧
      Row.ofEntries p.layout (p.arranged t).entries = .ok p := by
  have known : ∀ name, name ∈ p.layout.names ↔ name ∈ t.names := fun name =>
    Structure.mem_names_of_isCompatibleWith same
  refine ⟨ofEntries_entries width fun name => (known name).mp, ?_⟩
  rw [ofEntries_entries (arranged_wellFormed t p) fun name => (known name).mpr,
    arranged_arranged fun name => (known name).mp, arranged_self width]

end

/-- A row is made from named cells unless some of them name no column; the first such name is reported.
The row has one cell for each column, the last that is named for it or NULL. A row is made again from
its own named cells through any order of its columns. -/
theorem rows_rebuilt_from_entries :
    (∀ (s : Structure) (entries : List (String × Value)),
      ((∃ e, Row.ofEntries s entries = .error e) ↔ ∃ entry ∈ entries, entry.1 ∉ s.names) ∧
      (∀ e, Row.ofEntries s entries = .error e →
        ∃ name, (Assoc.names entries).find? (· ∉ s.names) = some name ∧ e = .unknownColumn name) ∧
      ((∀ entry ∈ entries, entry.1 ∈ s.names) →
        ∃ r, Row.ofEntries s entries = .ok r ∧ r.layout = s ∧ r.cells.length = s.size ∧
          ∀ name ∈ s.names, r.get? name = some (lastCell entries name))) ∧
    ∀ (p : Row) (t : Structure), p.WellFormed → t.components.Perm p.layout.components →
      ∃ q, Row.ofEntries t p.entries = .ok q ∧ q.layout = t ∧ q.get? = p.get? ∧
        Row.ofEntries p.layout q.entries = .ok p := by
  refine ⟨fun s entries => ⟨?_, fun e => ofEntries_error_iff.mp, fun known => ?_⟩,
    fun p t width perm => ?_⟩
  · have some_unknown : (∃ name, (Assoc.names entries).find? (· ∉ s.names) = some name) ↔
        ∃ entry ∈ entries, entry.1 ∉ s.names := by
      rw [← Option.isSome_iff_exists, List.find?_isSome]
      simp [Assoc.names]
    simp only [← some_unknown, ofEntries_error_iff]
    constructor
    · rintro ⟨-, name, first, -⟩
      exact ⟨name, first⟩
    · rintro ⟨name, first⟩
      exact ⟨_, name, first, rfl⟩
  · refine ⟨_, ofEntries_eq known, rfl, ?_, fun name held => get?_map_names _ held⟩
    rw [List.length_map, Structure.names, List.length_map]
    rfl
  · have same := Structure.isCompatibleWith_iff_perm.mpr perm.symm
    obtain ⟨there, back⟩ := ofEntries_back width same
    exact ⟨p.arranged t, there, rfl, get?_arranged_of_isCompatibleWith width same, back⟩

open Ledger in
theorem ledger_rows_rebuilt :
    (∃ e, Row.ofEntries ledger [("credit", .integer 1), ("date", .integer 2)] = .error e) ∧
    (∃ r, Row.ofEntries ledger [("credit", .integer 1), ("credit", .integer 2)] = .ok r ∧
      r.get? "credit" = some (.integer 2) ∧ r.get? "debit" = some .null) ∧
    ∃ q, Row.ofEntries turned (Row.entries ⟨ledger, [.integer 1, .integer 2]⟩) = .ok q ∧
      q.layout = turned ∧
      Row.ofEntries ledger q.entries = .ok ⟨ledger, [.integer 1, .integer 2]⟩ := by
  obtain ⟨made, again⟩ := rows_rebuilt_from_entries
  refine ⟨?_, ?_, ?_⟩
  · exact (made ledger _).1.mpr ⟨_, List.mem_cons_of_mem _ List.mem_cons_self, by decide⟩
  · obtain ⟨r, row, -, -, held⟩ :=
      (made ledger [("credit", .integer 1), ("credit", .integer 2)]).2.2 (by simp; decide)
    exact ⟨r, row, held "credit" (by decide), held "debit" (by decide)⟩
  · obtain ⟨q, there, layout, -, back⟩ :=
      again ⟨ledger, [.integer 1, .integer 2]⟩ turned rfl (List.Perm.swap debit credit [])
    exact ⟨q, there, layout, back⟩

/-! ### Equal rows -/

theorem cellsBeq_iff {vs ws : List Value} :
    cellsBeq vs ws ↔ List.Forall₂ (fun v w => v == w) vs ws := by
  induction vs generalizing ws with
  | nil => cases ws <;> simp [cellsBeq]
  | cons v vs ih =>
    cases ws with
    | nil => simp [cellsBeq]
    | cons w ws =>
      rw [cellsBeq, Bool.and_eq_true, ih, List.forall₂_cons]
      rfl

/-- Rows are equal when their layouts hold the same columns and their cells are equal place by place. -/
theorem Row.beq_iff {p q : Row} :
    p == q ↔ p.layout.isCompatibleWith q.layout ∧ List.Forall₂ (fun v w => v == w) p.cells q.cells := by
  cases p
  change Row.beq _ q ↔ _
  rw [Row.beq, Bool.and_eq_true, cellsBeq_iff]

theorem rowsBeq_iff {rows others : List Row} :
    rowsBeq rows others ↔ List.Forall₂ (fun p q => p == q) rows others := by
  induction rows generalizing others with
  | nil => cases others <;> simp [rowsBeq]
  | cons p rows ih =>
    cases others with
    | nil => simp [rowsBeq]
    | cons q others =>
      rw [rowsBeq, Bool.and_eq_true, ih, List.forall₂_cons]
      rfl

theorem Dataset.beq_iff {d e : Dataset} :
    d == e ↔ d.layout.isCompatibleWith e.layout ∧ List.Forall₂ (fun p q => p == q) d.rows e.rows := by
  cases d
  change Dataset.beq _ e ↔ _
  rw [Dataset.beq, Bool.and_eq_true, rowsBeq_iff]

section

variable {a b : Structure} {p q : Row} {name : String} {as bs : List Structure}

theorem nulls_beq (same : a.isCompatibleWith b) : Row.nulls a == Row.nulls b := by
  refine Row.beq_iff.mpr ⟨same, ?_⟩
  have sizes : a.size = b.size := (Structure.isCompatibleWith_iff_perm.mp same).length_eq
  rw [Row.nulls, Row.nulls, sizes]
  refine List.forall₂_same.mpr fun v member => ?_
  rw [List.eq_of_mem_replicate member]
  simp [BEq.beq, Value.beq]

/-! ### Equality by name -/

theorem getElem?_beq {vs ws : List Value} (each : List.Forall₂ (fun v w => v == w) vs ws) (i : Nat) :
    vs[i]? == ws[i]? := by
  induction each generalizing i with
  | nil => rfl
  | cons first _ ih =>
    cases i with
    | zero => exact first
    | succ i => exact ih i

/-- Equal rows of one layout are equal by name. -/
theorem get?_beq (layout : p.layout = q.layout) (equal : p == q) (name : String) :
    p.get? name == q.get? name := by
  rw [Row.get?, Row.get?, layout]
  cases q.layout.indexOf? name with
  | none => rfl
  | some i => exact getElem?_beq (Row.beq_iff.mp equal).2 i

/-- Rows with the same columns hold equal maps exactly if they are equal by name. -/
theorem sameMap_entries_iff (width : p.WellFormed) (width' : q.WellFormed)
    (same : p.layout.isCompatibleWith q.layout) :
    Assoc.sameMap p.entries q.entries ↔ ∀ name, p.get? name == q.get? name := by
  have perm : (Assoc.names p.entries).Perm (Assoc.names q.entries) := by
    rw [names_entries width, names_entries width']
    exact (Structure.isCompatibleWith_iff_perm.mp same).map Component.name
  rw [Assoc.sameMap_iff_find? (names_entries_nodup width) perm]
  simp only [find?_entries width, find?_entries width']

/-- Where a column stands at another place, cells that mark it differ under its name. -/
theorem marked_misplaced {i j : Nat} (onLeft : a.indexOf? name = some i)
    (onRight : b.indexOf? name = some j) (other : i ≠ j) :
    ¬ ((Branches.marked a name).get? name == Row.get? ⟨b, (Branches.marked a name).cells⟩ name) := by
  have here : (Branches.marked a name).cells[i]? = some (.boolean true) := by
    have held := Branches.marked_cell (i := i) onLeft
    rw [if_pos rfl] at held
    exact (Option.getD_eq_iff.mp held).resolve_right (by simp)
  have there : (Branches.marked a name).cells[j]? = some .null ∨
      (Branches.marked a name).cells[j]? = none := by
    have held := Branches.marked_cell (i := j) onLeft
    rw [if_neg (Ne.symm other)] at held
    exact (Option.getD_eq_iff.mp held).imp_right And.left
  have onLeft : (Branches.marked a name).layout.indexOf? name = some i := onLeft
  rw [Row.get?, Row.get?, onLeft, onRight, Option.bind_some, Option.bind_some, here]
  rcases there with null | missing
  · rw [null, Option.some_beq_some]
    simp [BEq.beq, Value.beq]
  · rw [missing]
    simp

/-- Compatible layouts have equal rows that are equal by name only if the layouts are the same. -/
theorem exists_equal_row (same : a.isCompatibleWith b) :
    ∃ p q : Row, p.layout = a ∧ q.layout = b ∧ p.WellFormed ∧ q.WellFormed ∧ p == q ∧
      ((∀ name, p.get? name == q.get? name) → a = b) := by
  by_cases names : a.names = b.names
  · exact ⟨Row.nulls a, Row.nulls b, rfl, rfl, List.length_replicate, List.length_replicate,
      nulls_beq same, fun _ => Structure.eq_of_isCompatibleWith same names⟩
  -- the same cells under both layouts, of which one marks a column that stands at different places
  obtain ⟨c, i, j, found, onLeft, onRight, other⟩ := exists_misplaced same names
  have width : (Branches.marked a c.name).WellFormed := by
    simp [Row.WellFormed, Branches.marked, Structure.names, Structure.size]
  have sizes : a.size = b.size := (Structure.isCompatibleWith_iff_perm.mp same).length_eq
  refine ⟨Branches.marked a c.name, ⟨b, (Branches.marked a c.name).cells⟩, rfl, rfl, width,
    width.trans sizes, Row.beq_iff.mpr ⟨same, ?_⟩,
    fun byName => (marked_misplaced onLeft onRight other (byName c.name)).elim⟩
  refine List.forall₂_same.mpr (List.forall_mem_map.mpr fun name _ => ?_)
  split <;> simp [BEq.beq, Value.beq]

/-- Layouts compatible in turn have equal rows that are equal maps only if the layouts are the same. -/
theorem exists_equal_rows
    (each : List.Forall₂ (fun s t => (s.isCompatibleWith t : Prop)) as bs) :
    ∃ rows others : List Row, rows.map Row.layout = as ∧ others.map Row.layout = bs ∧
      (∀ r ∈ rows, r.WellFormed) ∧ (∀ r ∈ others, r.WellFormed) ∧
      List.Forall₂ (fun p q => p == q) rows others ∧
      (List.Forall₂ (fun p q => Assoc.sameMap p.entries q.entries) rows others → as = bs) := by
  induction each with
  | nil => exact ⟨[], [], rfl, rfl, List.forall_mem_nil _, List.forall_mem_nil _, .nil, fun _ => rfl⟩
  | cons same _ ih =>
    obtain ⟨p, q, rfl, rfl, width, width', equal, first⟩ := exists_equal_row same
    obtain ⟨rows, others, rfl, rfl, widths, widths', equals, later⟩ := ih
    refine ⟨p :: rows, q :: others, rfl, rfl, List.forall_mem_cons.mpr ⟨width, widths⟩,
      List.forall_mem_cons.mpr ⟨width', widths'⟩, .cons equal equals, fun maps => ?_⟩
    obtain ⟨map, maps⟩ := List.forall₂_cons.mp maps
    rw [first ((sameMap_entries_iff width width' same).mp map), later maps]

/-- Equal rows with the same layouts in turn are equal maps. -/
theorem sameMaps_of_layouts {rows others : List Row} (widths : ∀ r ∈ rows, r.WellFormed)
    (widths' : ∀ r ∈ others, r.WellFormed) (layouts : rows.map Row.layout = others.map Row.layout)
    (equal : List.Forall₂ (fun p q => p == q) rows others) :
    List.Forall₂ (fun p q => Assoc.sameMap p.entries q.entries) rows others := by
  induction equal with
  | nil => exact .nil
  | cons equal _ ih =>
    obtain ⟨layout, layouts⟩ := List.cons.inj layouts
    obtain ⟨width, widths⟩ := List.forall_mem_cons.mp widths
    obtain ⟨width', widths'⟩ := List.forall_mem_cons.mp widths'
    refine .cons ?_ (ih widths widths' layouts)
    exact (sameMap_entries_iff width width' (Row.beq_iff.mp equal).1).mpr (get?_beq layout equal)

theorem layouts_of_equal {rows others : List Row}
    (equal : List.Forall₂ (fun p q => p == q) rows others) :
    List.Forall₂ (fun s t => (s.isCompatibleWith t : Prop)) (rows.map Row.layout)
      (others.map Row.layout) := by
  rw [List.forall₂_map_left_iff, List.forall₂_map_right_iff]
  exact equal.imp fun p q equal => (Row.beq_iff.mp equal).1

end

/-- Between given layouts, equal rows are equal under every name if and only if the layouts are in one
column order, unless their columns differ. Equal datasets hold equal maps from names to cells, row by
row, if and only if that is so of the layouts of their rows. -/
theorem equal_rows_by_name_iff (a b : Structure) :
    ((∀ p q : Row, p.layout = a → q.layout = b → p.WellFormed → q.WellFormed → p == q →
        ∀ name, p.get? name == q.get? name) ↔ (a.isCompatibleWith b → a = b)) ∧
      ∀ as bs : List Structure,
        (∀ d e : Dataset, d.layout = a → e.layout = b →
            d.rows.map Row.layout = as → e.rows.map Row.layout = bs →
            (∀ r ∈ d.rows, r.WellFormed) → (∀ r ∈ e.rows, r.WellFormed) → d == e →
              List.Forall₂ (fun p q => Assoc.sameMap p.entries q.entries) d.rows e.rows) ↔
          (a.isCompatibleWith b →
            List.Forall₂ (fun s t => (s.isCompatibleWith t : Prop)) as bs → as = bs) := by
  refine ⟨⟨fun byName same => ?_, fun order p q layout layout' _ _ equal => ?_⟩,
    fun as bs => ⟨fun byName same each => ?_, ?_⟩⟩
  · obtain ⟨p, q, layout, layout', width, width', equal, order⟩ := exists_equal_row same
    exact order (byName p q layout layout' width width' equal)
  · have same := (Row.beq_iff.mp equal).1
    rw [layout, layout'] at same
    exact get?_beq (by rw [layout, layout', order same]) equal
  · obtain ⟨rows, others, layouts, layouts', widths, widths', equal, order⟩ :=
      exists_equal_rows each
    exact order (byName ⟨a, rows⟩ ⟨b, others⟩ rfl rfl layouts layouts' widths widths'
      (Dataset.beq_iff.mpr ⟨same, equal⟩))
  · intro order d e layout layout' layouts layouts' widths widths' equal
    obtain ⟨same, equals⟩ := Dataset.beq_iff.mp equal
    have each := layouts_of_equal equals
    rw [layout, layout'] at same
    rw [layouts, layouts'] at each
    exact sameMaps_of_layouts widths widths' (by rw [layouts, layouts', order same each]) equals

open Ledger in
theorem turned_rows_equal :
    Row.mk ledger [.integer 1, .integer 2] == Row.mk turned [.integer 1, .integer 2] ∧
      Row.get? ⟨ledger, [.integer 1, .integer 2]⟩ "debit" = some (.integer 1) ∧
      Row.get? ⟨turned, [.integer 1, .integer 2]⟩ "debit" = some (.integer 2) ∧
      ¬ ∀ p q : Row, p.layout = ledger → q.layout = turned → p.WellFormed → q.WellFormed → p == q →
        ∀ name, p.get? name == q.get? name := by
  refine ⟨Row.beq_iff.mpr ⟨by decide, ?_⟩, rfl, rfl, fun byName => ?_⟩
  · exact List.forall₂_same.mpr (by simp [BEq.beq, Value.beq])
  · have order := (equal_rows_by_name_iff ledger turned).1.mp byName (by decide)
    revert order
    decide

end DatasetScript
