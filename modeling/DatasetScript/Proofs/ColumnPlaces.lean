import DatasetScript.Data.ColumnMap
import DatasetScript.Proofs.Columns
import Mathlib.Data.Fintype.EquivFin
/-!
# Places of columns

A structure that is put together column by column is the map of its columns by name, each with its own
place, whatever places the columns remembered before. Main statements: `ofColumns_eq`, from which
`columns_know_their_places` follows, and `compatibility_is_equality`.
-/

namespace DatasetScript

/-! ### Repeated names -/

theorem firstRepeat?_congr {seen seen' : List String} (same : ∀ name, name ∈ seen ↔ name ∈ seen')
    (names : List String) : firstRepeat? seen names = firstRepeat? seen' names := by
  induction names generalizing seen seen' with
  | nil => rfl
  | cons name rest ih =>
    have later : ∀ other, other ∈ name :: seen ↔ other ∈ name :: seen' := fun other => by
      rw [List.mem_cons, List.mem_cons, same]
    simp only [firstRepeat?, same, ih later]

theorem firstRepeat?_eq_none_iff {seen names : List String} :
    firstRepeat? seen names = none ↔ names.Nodup ∧ ∀ name ∈ names, name ∉ seen := by
  induction names generalizing seen with
  | nil => simp [firstRepeat?]
  | cons name rest ih =>
    unfold firstRepeat?
    split
    · rename_i taken
      simp [taken]
    · rename_i fresh
      rw [ih, List.nodup_cons, List.forall_mem_cons]
      constructor
      · rintro ⟨distinct, apart⟩
        have first : name ∉ rest := fun later => apart name later List.mem_cons_self
        exact ⟨⟨first, distinct⟩, fresh, fun other later member =>
          apart other later (List.mem_cons_of_mem name member)⟩
      · rintro ⟨⟨first, distinct⟩, -, apart⟩
        refine ⟨distinct, fun other later member => ?_⟩
        rcases List.mem_cons.mp member with rfl | earlier
        · exact first later
        · exact apart other later earlier

namespace Structure

variable {s : Structure} {c : Component} {i : Nat}

theorem exists_ofComponents_iff {cs : List Component} :
    (∃ s, ofComponents cs = .ok s) ↔ (cs.map Component.name).Nodup := by
  constructor
  · rintro ⟨s, made⟩
    rw [← ofComponents_ok made]
    exact s.nodup
  · exact fun distinct => ⟨_, ofComponents_of_nodup distinct⟩

theorem indexOfComponent?_eq_some_iff :
    s.indexOfComponent? c = some i ↔ s.components[i]? = some c := by
  unfold indexOfComponent?
  constructor
  · intro found
    split at found
    · rename_i held
      obtain ⟨d, here, named⟩ := indexOf?_eq_some_iff.mp found
      obtain ⟨member, -⟩ := get?_eq_some_iff.mp held
      rw [here, eq_of_mem_of_name (List.mem_of_getElem? here) member named]
    · cases found
  · intro here
    rw [if_pos (get?_eq_some_iff.mpr ⟨List.mem_of_getElem? here, rfl⟩)]
    exact indexOf?_eq_some_iff.mpr ⟨c, here, rfl⟩

end Structure

/-! ### Putting columns in -/

theorem PlacedColumn.beq_iff {c d : PlacedColumn} : c == d ↔ c.column = d.column :=
  beq_iff_eq (a := c.column)

namespace ColumnMap

variable {m : ColumnMap} {c : PlacedColumn}

theorem add_of_fresh (fresh : c.column.name ∉ Assoc.names m) :
    m.add c = .ok (m ++ [(c.column.name, ⟨c.column, m.length⟩)]) := by
  rw [add, (Assoc.find?_eq_none_iff m _).mpr fresh, Assoc.put_of_fresh _ fresh]
  rfl

theorem add_of_taken (taken : c.column.name ∈ Assoc.names m) :
    m.add c = .error (.structureMismatch (.duplicateComponent c.column.name)) := by
  have found : (Assoc.find? m c.column.name).isSome := by
    rw [Option.isSome_iff_ne_none, ne_eq, Assoc.find?_eq_none_iff]
    exact not_not_intro taken
  rw [add, if_pos found]

/-- Columns are appended with the places at which they come to stand, up to the first whose name is
taken. -/
theorem addAll_eq (m : ColumnMap) (columns : List PlacedColumn) :
    m.addAll columns =
      match firstRepeat? (Assoc.names m) (columns.map (·.column.name)) with
      | some name => .error (.structureMismatch (.duplicateComponent name))
      | none => .ok (m ++ columns.mapIdx fun i c => (c.column.name, ⟨c.column, m.length + i⟩)) := by
  induction columns generalizing m with
  | nil => simp [addAll, firstRepeat?]
  | cons c rest ih =>
    rw [addAll, List.map_cons, firstRepeat?]
    by_cases taken : c.column.name ∈ Assoc.names m
    · rw [add_of_taken taken, if_pos taken]
      rfl
    · rw [add_of_fresh taken, if_neg taken, ok_bind, ih]
      have grown : ∀ name, name ∈ Assoc.names (m ++ [(c.column.name, ⟨c.column, m.length⟩)]) ↔
          name ∈ c.column.name :: Assoc.names m := fun name => by
        simp [Assoc.names, or_comm]
      rw [firstRepeat?_congr grown]
      split
      · rfl
      · simp [List.mapIdx_cons, Nat.add_assoc, Nat.add_comm 1]

/-- Putting columns in one by one gives the map of the structure with these columns, or fails as that
structure does. -/
theorem ofColumns_eq (columns : List PlacedColumn) :
    ofColumns columns =
      (Structure.ofComponents (columns.map PlacedColumn.column)).map Structure.columnMap := by
  have names : (columns.map PlacedColumn.column).map Component.name =
      columns.map (·.column.name) := List.map_map
  have start : Assoc.names ([] : ColumnMap) = [] := rfl
  rw [ofColumns, addAll_eq, start]
  cases repeated : firstRepeat? [] (columns.map (·.column.name)) with
  | none =>
    have distinct := (firstRepeat?_eq_none_iff.mp repeated).1
    rw [← names] at distinct
    rw [Structure.ofComponents_of_nodup distinct]
    refine congrArg Except.ok (List.ext_getElem? fun i => ?_)
    simp [Structure.columnMap, Function.comp_def]
  | some name =>
    have twice : ¬ ((columns.map PlacedColumn.column).map Component.name).Nodup := fun distinct => by
      rw [names] at distinct
      have none_left := firstRepeat?_eq_none_iff.mpr ⟨distinct, fun _ _ => List.not_mem_nil⟩
      cases none_left.symm.trans repeated
    rw [Structure.ofComponents, dif_neg twice, names, repeated]
    rfl

theorem ofColumns_ok_iff {columns : List PlacedColumn} : ofColumns columns = .ok m ↔
    ∃ s, Structure.ofComponents (columns.map PlacedColumn.column) = .ok s ∧ m = s.columnMap := by
  rw [ofColumns_eq]
  cases Structure.ofComponents (columns.map PlacedColumn.column) <;> simp [Except.map, eq_comm]

/-! ### The map of a structure -/

variable {s : Structure} {name : String} {i : Nat} {own : PlacedColumn}

theorem mem_columnMap_iff :
    (name, own) ∈ s.columnMap ↔ s.components[own.place]? = some own.column ∧ own.column.name = name := by
  rw [Structure.columnMap, List.mem_mapIdx]
  constructor
  · rintro ⟨i, bound, same⟩
    cases same
    exact ⟨List.getElem?_eq_getElem bound, rfl⟩
  · rintro ⟨here, rfl⟩
    obtain ⟨bound, same⟩ := List.getElem?_eq_some_iff.mp here
    exact ⟨own.place, bound, by rw [same]⟩

theorem names_columnMap (s : Structure) : Assoc.names s.columnMap = s.names := by
  apply List.ext_getElem?
  intro i
  simp only [Assoc.names, Structure.columnMap, Structure.names, List.getElem?_map,
    List.getElem?_mapIdx, Option.map_map]
  rfl

/-- A column is found with the place at which it stands. -/
theorem find?_columnMap : Assoc.find? s.columnMap name = some own ↔
    s.components[own.place]? = some own.column ∧ own.column.name = name := by
  have distinct : (Assoc.names s.columnMap).Nodup := by
    rw [names_columnMap]
    exact s.nodup
  rw [Assoc.find?_eq_some_iff distinct, mem_columnMap_iff]

theorem indexOf?_columnMap (s : Structure) (name : String) :
    s.columnMap.indexOf? name = s.indexOf? name := by
  have inMap : s.columnMap.indexOf? name = (Assoc.names s.columnMap).findIdx? (· == name) :=
    (List.findIdx?_map (p := (· == name)) (f := Prod.fst)).symm
  have inStructure : s.indexOf? name = s.names.findIdx? (· == name) :=
    (List.findIdx?_map (p := (· == name)) (f := Component.name)).symm
  rw [inMap, inStructure, names_columnMap]

/-- The place that a column remembers is the place at which it stands. -/
theorem indexOfColumn?_columnMap (s : Structure) (c : PlacedColumn) :
    s.columnMap.indexOfColumn? c = s.indexOfComponent? c.column := by
  apply Option.ext
  intro i
  rw [Structure.indexOfComponent?_eq_some_iff, indexOfColumn?, Option.bind_eq_some_iff]
  constructor
  · rintro ⟨own, found, remembered⟩
    split at remembered
    · rename_i equal
      have same := PlacedColumn.beq_iff.mp equal
      cases remembered
      rw [(find?_columnMap.mp found).1, same]
    · cases remembered
  · intro here
    exact ⟨⟨c.column, i⟩, find?_columnMap.mpr ⟨here, rfl⟩, if_pos (PlacedColumn.beq_iff.mpr rfl)⟩

variable {columns : List PlacedColumn}

theorem exists_ofColumns_iff :
    (∃ m, ofColumns columns = .ok m) ↔ (columns.map (·.column.name)).Nodup := by
  simp only [ofColumns_ok_iff, exists_comm (α := ColumnMap), exists_and_left, exists_eq, and_true,
    Structure.exists_ofComponents_iff, List.map_map]
  rfl

/-- A column that is put in keeps its name, type and role, and remembers its place. -/
theorem getElem?_ofColumns (made : ofColumns columns = .ok m) (i : Nat) :
    m[i]? = columns[i]?.map fun c => (c.column.name, ⟨c.column, i⟩) := by
  obtain ⟨s, structured, rfl⟩ := ofColumns_ok_iff.mp made
  rw [Structure.columnMap, Structure.ofComponents_ok structured, List.getElem?_mapIdx,
    List.getElem?_map, Option.map_map]
  rfl

theorem length_ofColumns (made : ofColumns columns = .ok m) : m.length = columns.length := by
  obtain ⟨s, structured, rfl⟩ := ofColumns_ok_iff.mp made
  rw [Structure.columnMap, List.length_mapIdx, Structure.ofComponents_ok structured, List.length_map]

theorem indexOf?_ofColumns (made : ofColumns columns = .ok m) (here : columns[i]? = some c) :
    m.indexOf? c.column.name = some i := by
  obtain ⟨s, structured, rfl⟩ := ofColumns_ok_iff.mp made
  rw [indexOf?_columnMap, Structure.indexOf?_eq_some_iff, Structure.ofComponents_ok structured,
    List.getElem?_map, here]
  exact ⟨c.column, rfl, rfl⟩

/-- The place of a column is that of the equal one that was put in. -/
theorem indexOfColumn?_ofColumns (made : ofColumns columns = .ok m) (d : PlacedColumn) :
    m.indexOfColumn? d = some i ↔ ∃ c, columns[i]? = some c ∧ d == c := by
  obtain ⟨s, structured, rfl⟩ := ofColumns_ok_iff.mp made
  rw [indexOfColumn?_columnMap, Structure.indexOfComponent?_eq_some_iff,
    Structure.ofComponents_ok structured, List.getElem?_map, Option.map_eq_some_iff]
  exact exists_congr fun c => and_congr_right fun _ => by rw [PlacedColumn.beq_iff, eq_comm]

end ColumnMap

/-! ### Compatible structures -/

namespace Structure

variable {a b : Structure}

/-- Structures are equal as maps when they are compatible. -/
theorem equal_eq (a b : Structure) : a.equal b = a.isCompatibleWith b := by
  rw [Bool.eq_iff_iff, equal, Assoc.sameMap_iff]
  simp only [isCompatibleWith, size, Bool.and_eq_true, beq_iff_eq, List.all_eq_true]
  refine and_congr (by simp [columnMap]) ⟨fun found c member => ?_, fun found entry member => ?_⟩
  · obtain ⟨i, here⟩ := List.getElem?_of_mem member
    obtain ⟨own, held, same⟩ := found (c.name, ⟨c, i⟩) (ColumnMap.mem_columnMap_iff.mpr ⟨here, rfl⟩)
    obtain ⟨there, -⟩ := ColumnMap.find?_columnMap.mp held
    rw [← PlacedColumn.beq_iff.mp same] at there
    exact get?_eq_some_iff.mpr ⟨List.mem_of_getElem? there, rfl⟩
  · obtain ⟨name, own⟩ := entry
    obtain ⟨here, rfl⟩ := ColumnMap.mem_columnMap_iff.mp member
    obtain ⟨there, -⟩ := get?_eq_some_iff.mp (found own.column (List.mem_of_getElem? here))
    obtain ⟨j, at_j⟩ := List.getElem?_of_mem there
    exact ⟨⟨own.column, j⟩, ColumnMap.find?_columnMap.mpr ⟨at_j, rfl⟩, PlacedColumn.beq_iff.mpr rfl⟩

/-- The places of the columns of one structure in a compatible one are all of its places, each once. -/
theorem exists_placement (compatible : a.isCompatibleWith b) :
    ∃ place : Fin a.size ≃ Fin b.size,
      ∀ i, b.indexOf? (a.components.get i).name = some (place i).val := by
  have perm := isCompatibleWith_iff_perm.mp compatible
  have placed : ∀ i : Fin a.size, ∃ j : Fin b.size, b.components.get j = a.components.get i := by
    intro i
    have member := perm.mem_iff.mp (List.get_mem a.components i)
    exact List.get_of_mem member
  choose place same using placed
  have distinct : a.components.Nodup := List.Nodup.of_map _ a.nodup
  have injective : Function.Injective place := by
    intro i j at_one
    have equal : a.components.get i = a.components.get j := by rw [← same, ← same, at_one]
    exact List.nodup_iff_injective_get.mp distinct equal
  have sizes : Fintype.card (Fin a.size) = Fintype.card (Fin b.size) := by
    rw [Fintype.card_fin, Fintype.card_fin]
    exact perm.length_eq
  have bijective := (Fintype.bijective_iff_injective_and_card place).mpr ⟨injective, sizes⟩
  refine ⟨Equiv.ofBijective place bijective, fun i => ?_⟩
  refine indexOf?_eq_some_iff.mpr ⟨b.components.get (place i), ?_, by rw [same i]⟩
  exact List.getElem?_eq_getElem (place i).isLt

end Structure

/-- Structures are compatible if and only if one orders the columns of the other, and if and only if they
are equal as maps. This is an equivalence, and between compatible structures the places of the columns of
one in the other are a bijection. -/
theorem compatibility_is_equality (a b : Structure) :
    (a.isCompatibleWith b ↔ a.components.Perm b.components) ∧
      (a.isCompatibleWith b ↔ a.equal b) ∧
      Equivalence (fun s t : Structure => (s.isCompatibleWith t : Prop)) ∧
      (a.isCompatibleWith b → ∃ place : Fin a.size ≃ Fin b.size,
        ∀ i, b.indexOf? (a.components.get i).name = some (place i).val) := by
  refine ⟨Structure.isCompatibleWith_iff_perm, ?_, ?_, Structure.exists_placement⟩
  · rw [Structure.equal_eq]
  · exact ⟨Structure.isCompatibleWith_refl, Structure.isCompatibleWith_symm,
      Structure.isCompatibleWith_trans⟩

namespace Ledger

def debit : Component := ⟨"debit", .integer, .measure⟩

def credit : Component := ⟨"credit", .integer, .measure⟩

def ledger : Structure := ⟨[debit, credit], by decide⟩

/-- The same columns the other way round. -/
def turned : Structure := ⟨[credit, debit], by decide⟩

end Ledger

open Ledger in
theorem ledger_equal_turned : ledger.components.Perm turned.components ∧ ledger.equal turned ∧
    ∃ place : Fin ledger.size ≃ Fin turned.size,
      ∀ i, turned.indexOf? (ledger.components.get i).name = some (place i).val := by
  obtain ⟨perm, equal, -, placement⟩ := compatibility_is_equality ledger turned
  have compatible : ledger.isCompatibleWith turned := by decide
  exact ⟨perm.mp compatible, equal.mp compatible, placement compatible⟩

/-! ### Types and roles under the same names -/

section

variable {types : List (String × DataType)} {roles : List (String × Role)}

theorem sameNames_iff (distinct : (Assoc.names types).Nodup) (distinct' : (Assoc.names roles).Nodup) :
    (types.length = roles.length ∧ types.all fun (name, _) => (Assoc.find? roles name).isSome) ↔
      ∀ name, name ∈ Assoc.names types ↔ name ∈ Assoc.names roles := by
  have lengths : types.length = roles.length ↔
      (Assoc.names types).length = (Assoc.names roles).length := by
    rw [Assoc.names, Assoc.names, List.length_map, List.length_map]
  have found : types.all (fun (name, _) => (Assoc.find? roles name).isSome) ↔
      Assoc.names types ⊆ Assoc.names roles := by
    simp only [List.all_eq_true, Option.isSome_iff_ne_none, ne_eq, Assoc.find?_eq_none_iff, not_not]
    exact List.forall_mem_map.symm
  rw [← List.perm_ext_iff_of_nodup distinct distinct', lengths, found]
  constructor
  · rintro ⟨length, subset⟩
    exact (distinct.subperm subset).perm_of_length_le (Nat.le_of_eq length.symm)
  · intro perm
    exact ⟨perm.length_eq, perm.subset⟩

/-- The columns in the order of the types, with the roles given under their names. -/
def typedColumns (types : List (String × DataType)) (roles : List (String × Role)) : List Component :=
  types.map fun (name, type) => ⟨name, type, (Assoc.find? roles name).getD .measure⟩

theorem typedColumns_names : (typedColumns types roles).map Component.name = Assoc.names types :=
  List.map_map

theorem typedColumns_types : (typedColumns types roles).map (fun c => (c.name, c.type)) = types := by
  rw [typedColumns, List.map_map]
  exact List.map_id types

theorem typedColumns_role (same : ∀ name, name ∈ Assoc.names types ↔ name ∈ Assoc.names roles)
    {c : Component} (member : c ∈ typedColumns types roles) :
    Assoc.find? roles c.name = some c.role := by
  obtain ⟨⟨name, type⟩, given, rfl⟩ := List.mem_map.mp member
  have known := (same name).mp (List.mem_map.mpr ⟨_, given, rfl⟩)
  cases found : Assoc.find? roles name with
  | none => exact ((Assoc.find?_eq_none_iff roles name).mp found known).elim
  | some role => simp [found]

/-- Types and roles make a structure if and only if they are given for the same names. -/
theorem ofTypesAndRoles_ok_iff (distinct : (Assoc.names types).Nodup)
    (distinct' : (Assoc.names roles).Nodup) {s : Structure} :
    Structure.ofTypesAndRoles types roles = .ok s ↔
      (∀ name, name ∈ Assoc.names types ↔ name ∈ Assoc.names roles) ∧
        Structure.ofComponents (typedColumns types roles) = .ok s := by
  rw [← sameNames_iff distinct distinct', Structure.ofTypesAndRoles]
  split
  · rename_i same
    exact ⟨fun made => ⟨same, made⟩, And.right⟩
  · rename_i different
    exact ⟨nofun, fun given => (different given.1).elim⟩

end

/-- A structure can be put together from columns if their names differ. Each column then keeps its name,
type and role and remembers the place at which it stands, which is found by its name, and by every
column equal to it whatever place that one remembers; no place is found for other columns. Types and
roles by name make a structure if they name the same columns, in the order of the types. -/
theorem columns_know_their_places :
    (∀ columns : List PlacedColumn,
      ((∃ m, ColumnMap.ofColumns columns = .ok m) ↔ (columns.map (·.column.name)).Nodup) ∧
      ∀ m, ColumnMap.ofColumns columns = .ok m →
        m.length = columns.length ∧
        (∀ i c, columns[i]? = some c →
          m[i]? = some (c.column.name, ⟨c.column, i⟩) ∧ m.indexOf? c.column.name = some i ∧
            ∀ d : PlacedColumn, m.indexOfColumn? d = some i ↔ d == c) ∧
        (∀ d : PlacedColumn, (∀ c ∈ columns, ¬ d == c) → m.indexOfColumn? d = none) ∧
        ∃ s, Structure.ofComponents (columns.map PlacedColumn.column) = .ok s ∧
          (∀ name, s.indexOf? name = m.indexOf? name) ∧
          ∀ d : PlacedColumn, s.indexOfComponent? d.column = m.indexOfColumn? d) ∧
    ∀ (types : List (String × DataType)) (roles : List (String × Role)),
      (Assoc.names types).Nodup → (Assoc.names roles).Nodup →
        ((∃ s, Structure.ofTypesAndRoles types roles = .ok s) ↔
          ∀ name, name ∈ Assoc.names types ↔ name ∈ Assoc.names roles) ∧
        ∀ s, Structure.ofTypesAndRoles types roles = .ok s →
          s.components.map (fun c => (c.name, c.type)) = types ∧
            ∀ c ∈ s.components, Assoc.find? roles c.name = some c.role := by
  refine ⟨fun columns => ⟨ColumnMap.exists_ofColumns_iff, fun m made => ?_⟩,
    fun types roles distinct distinct' => ?_⟩
  · refine ⟨ColumnMap.length_ofColumns made, fun i c here => ⟨?_, ColumnMap.indexOf?_ofColumns made here,
      fun d => ?_⟩, fun d other => ?_, ?_⟩
    · rw [ColumnMap.getElem?_ofColumns made, here, Option.map_some]
    · rw [ColumnMap.indexOfColumn?_ofColumns made]
      simp [here]
    · rw [Option.eq_none_iff_forall_ne_some]
      intro i found
      obtain ⟨c, here, equal⟩ := (ColumnMap.indexOfColumn?_ofColumns made d).mp found
      exact other c (List.mem_of_getElem? here) equal
    · obtain ⟨s, structured, rfl⟩ := ColumnMap.ofColumns_ok_iff.mp made
      exact ⟨s, structured, fun name => (ColumnMap.indexOf?_columnMap s name).symm,
        fun d => (ColumnMap.indexOfColumn?_columnMap s d).symm⟩
  · simp only [ofTypesAndRoles_ok_iff distinct distinct']
    constructor
    · rw [exists_and_left, Structure.exists_ofComponents_iff, typedColumns_names]
      exact and_iff_left distinct
    · rintro s ⟨same, made⟩
      rw [Structure.ofComponents_ok made]
      exact ⟨typedColumns_types, fun c => typedColumns_role same⟩

open Ledger in
/-- Columns that remember other places are put in anew. -/
theorem turned_put_together :
    (∃ m, ColumnMap.ofColumns [⟨credit, 7⟩, ⟨debit, 0⟩] = .ok m ∧
        m[1]? = some ("debit", ⟨debit, 1⟩) ∧ m.indexOfColumn? ⟨debit, 5⟩ = some 1) ∧
      ∃ s, Structure.ofTypesAndRoles [("debit", .integer), ("credit", .integer)]
          [("credit", .measure), ("debit", .measure)] = .ok s ∧
        s.components.map (fun c => (c.name, c.type)) = [("debit", .integer), ("credit", .integer)] := by
  obtain ⟨placed, typed⟩ := columns_know_their_places
  constructor
  · obtain ⟨exists_iff, kept⟩ := placed [⟨credit, 7⟩, ⟨debit, 0⟩]
    obtain ⟨m, made⟩ := exists_iff.mpr (by decide)
    obtain ⟨here, -, found⟩ := (kept m made).2.1 1 ⟨debit, 0⟩ rfl
    exact ⟨m, made, here, (found ⟨debit, 5⟩).mpr (by decide)⟩
  · obtain ⟨exists_iff, kept⟩ := typed [("debit", .integer), ("credit", .integer)]
      [("credit", .measure), ("debit", .measure)] (by decide) (by decide)
    obtain ⟨s, made⟩ := exists_iff.mpr (by simp [Assoc.names, or_comm])
    exact ⟨s, made, (kept s made).1⟩

end DatasetScript
