import DatasetScript.Interchange.Value
import DatasetScript.Proofs.Grouping
import DatasetScript.Proofs.MemberOrder
import DatasetScript.Proofs.NamedCells
/-!
# Bindings read back

Bindings are read back from their JSON tree if their numbers are finite and the cells of their
datasets are exactly of the types of their columns. Main statements: `Value.readBack` for a single
value, with the members of objects in any order, and `Bindings.ofJson_toJson`.
-/

namespace DatasetScript

open Json (Reorders)

def Value.Finite : Value → Prop
  | .number x => x.isFinite
  | _ => True

/-- Rows are laid out by the structure of the dataset. Their cells are NULL or exactly of the type
of their column, not datasets, and finite if they are numbers. -/
structure Dataset.Interchangeable (d : Dataset) : Prop where
  exact : d.Exact d.layout
  finite : ∀ r ∈ d.rows, ∀ v ∈ r.cells, v.Finite

def Value.Interchangeable : Value → Prop
  | .dataset d => d.Interchangeable
  | v => v.Finite

/-! ### Items of lists -/

/-- A row as an object with a member for each cell, sorted by the names of the columns. -/
def Row.toJson (r : Row) : Json :=
  .object (Assoc.sorted (r.entries.map fun entry => (entry.1, entry.2.toJson)))

theorem cellsToJson_eq_map (cells : List Value) : cellsToJson cells = cells.map Value.toJson := by
  induction cells with
  | nil => rfl
  | cons v rest ih => rw [cellsToJson, ih, List.map_cons]

theorem rowsToJson_eq_map (rows : List Row) : rowsToJson rows = rows.map Row.toJson := by
  induction rows with
  | nil => rfl
  | cons r rest ih =>
    obtain ⟨layout, cells⟩ := r
    have named : layout.names.zip (cells.map Value.toJson) =
        (layout.names.zip cells).map fun entry => (entry.1, entry.2.toJson) :=
      List.zip_map_right
    rw [rowsToJson, ih, cellsToJson_eq_map, named, List.map_cons]
    rfl

/-! ### Single values -/

theorem depth_of_isPlain {v : Value} (plain : v.isPlain) : v.toJson.depth = 0 := by
  cases v with
  | dataset d => cases plain
  | number x =>
    rw [Value.toJson]
    split <;> rfl
  | _ => rfl

theorem scalar_readBack {v : Value} (plain : v.isPlain) (finite : v.Finite) :
    Value.ofScalarJson v.toJson = .ok v := by
  cases v with
  | dataset d => cases plain
  | integer i =>
    rw [Value.toJson, Value.ofScalarJson, Value.ofInteger, toInt64?_toInt]
  | number x =>
    have bounded : x.isFinite := finite
    rw [Value.toJson, if_pos bounded, Value.ofScalarJson]
  | _ => rfl

section

variable {f : Json → Json}

/-! ### Rows -/

theorem cell_readBack (h : Reorders f) {layout : Structure} {v : Value} {c : Component}
    (member : c ∈ layout.components) (plain : v.isPlain) (typed : v = .null ∨ v.type? = some c.type)
    (finite : v.Finite) :
    Row.cellOfJson layout c.name (f v.toJson) = .ok (c.name, v) := by
  have found : layout.get? c.name = some c := Structure.get?_eq_some_iff.mpr ⟨member, rfl⟩
  unfold Row.cellOfJson
  rw [found, h.onAtoms _ (depth_of_isPlain plain)]
  simp only [scalar_readBack plain finite, ok_bind, cast_of_exact typed]
  rfl

/-- A row is written as its named cells in some order. -/
theorem row_members (h : Reorders f) {r : Row} (width : r.WellFormed) :
    ∃ members, f r.toJson = .object members ∧
      members.Perm (r.entries.map fun entry => (entry.1, f entry.2.toJson)) := by
  have distinct : (Assoc.names (r.entries.map fun entry => (entry.1, entry.2.toJson))).Nodup := by
    rw [Assoc.names_map]
    exact names_entries_nodup width
  have sorted := Assoc.sorted_perm distinct
  obtain ⟨members, moved, perm⟩ := h.onObjects _ ((sorted.map Prod.fst).symm.nodup distinct)
  refine ⟨members, moved, perm.trans ((sorted.map _).trans ?_)⟩
  rw [List.map_map]
  exact .refl _

theorem Row.readBack (h : Reorders f) {r : Row}
    (exact : List.Forall₂ (fun v c => v.isPlain ∧ (v = .null ∨ v.type? = some c.type)) r.cells
      r.layout.components) (finite : ∀ v ∈ r.cells, v.Finite) :
    Row.ofJson r.layout (f r.toJson) = .ok r := by
  have width : r.WellFormed := exact.length_eq
  obtain ⟨members, moved, perm⟩ := row_members h width
  have each : List.Forall₂ (fun member entry => Row.cellOfJson r.layout member.1 member.2 = .ok entry)
      (r.entries.map fun entry => (entry.1, f entry.2.toJson)) r.entries := by
    rw [List.forall₂_map_left_iff, List.forall₂_same]
    intro entry member
    obtain ⟨c, column, named, plain, typed⟩ := entry_of_cells exact member
    have bounded : entry.2.Finite := finite _ (List.of_mem_zip member).2
    rw [← named, cell_readBack h column plain typed bounded, named]
  -- the cells come in the order of the members, and `ofEntries` puts each at its place
  obtain ⟨entries, read, reordered⟩ := List.perm_comp_forall₂ perm each
  rw [moved]
  change (members.mapM fun member => Row.cellOfJson r.layout member.1 member.2) >>=
    Row.ofEntries r.layout = _
  rw [mapM_of_forall₂ read, ok_bind, ofEntries_of_perm width reordered]

/-! ### Datasets -/

theorem Component.readBack (h : Reorders f) (c : Component) :
    Component.ofJson? (f c.toJson) = some c := by
  unfold Component.ofJson? Component.toJson
  rw [h.record? (by simp [Assoc.names])]
  have type : DataType.ofJson? (.string c.type.name) = some c.type := DataType.ofName?_name c.type
  have role : Role.ofJson? (.string c.role.name) = some c.role := Role.ofName?_name c.role
  simp [Assoc.find?_cons, h.onAtoms (.string _) rfl, type, role, Json.string?]

theorem Dataset.readBack (h : Reorders f) {d : Dataset} (fit : d.Interchangeable) :
    Value.ofJson (f d.toJson) = .ok (.dataset d) := by
  obtain ⟨layout, rows⟩ := d
  obtain ⟨exact, finite⟩ := fit
  have distinct : (Assoc.names [("rows", Json.array (rows.map Row.toJson)),
      ("structure", .array (layout.components.map Component.toJson))]).Nodup := by
    simp [Assoc.names]
  have columnsRead : (f (.array (layout.components.map Component.toJson))).list?
      Component.ofJson? = some layout.components := h.list? fun c _ => Component.readBack h c
  have rowsRead : List.Forall₂ (fun j r => Row.ofJson layout j = .ok r)
      ((rows.map Row.toJson).map f) rows := by
    rw [List.map_map, List.forall₂_map_left_iff, List.forall₂_same]
    intro r member
    obtain ⟨laid, cells⟩ := exact r member
    change r.layout = layout at laid
    subst laid
    exact Row.readBack h cells (finite r member)
  rw [Dataset.toJson, rowsToJson_eq_map]
  unfold Value.ofJson
  rw [h.member? distinct, h.member? distinct]
  simp only [Assoc.find?_cons, String.reduceEq, if_false, if_true, Option.map_some]
  unfold Dataset.ofJson
  rw [columnsRead]
  simp only [Structure.ofComponents_components, ok_bind, h.onArrays (rows.map Row.toJson),
    Dataset.rowsOfJson, mapM_of_forall₂ rowsRead]
  rfl

theorem plain_readBack (h : Reorders f) {v : Value} (plain : v.isPlain) (finite : v.Finite) :
    Value.ofJson (f v.toJson) = .ok v := by
  rw [h.onAtoms _ (depth_of_isPlain plain)]
  unfold Value.ofJson
  rw [Json.member?_of_depth (depth_of_isPlain plain)]
  exact scalar_readBack plain finite

theorem Value.readBack (h : Reorders f) {v : Value} (fit : v.Interchangeable) :
    Value.ofJson (f v.toJson) = .ok v := by
  cases v with
  | dataset d =>
    rw [Value.toJson]
    exact Dataset.readBack h fit
  | _ => exact plain_readBack h rfl fit

/-! ### Bindings -/

theorem members_readBack (h : Reorders f) {b : Bindings}
    (fit : ∀ entry ∈ b, entry.2.Interchangeable) :
    Bindings.ofJson (.object (b.map fun entry => (entry.1, f entry.2.toJson))) = .ok b := by
  have each : List.Forall₂
      (fun member entry => Bindings.bindingOfJson member.1 member.2 = .ok entry)
      (b.map fun entry => (entry.1, f entry.2.toJson)) b := by
    rw [List.forall₂_map_left_iff, List.forall₂_same]
    intro entry member
    unfold Bindings.bindingOfJson
    rw [Value.readBack h (fit entry member)]
  exact mapM_of_forall₂ each

end

/-- Bindings are read back from the object that they are written as. With the members of that object
sorted, and of the objects in it, they are read back as sorted by name. -/
theorem Bindings.ofJson_toJson {b : Bindings} (fit : ∀ entry ∈ b, entry.2.Interchangeable) :
    ofJson b.toJson = .ok b ∧ ofJson b.toJson.canonical = .ok (Assoc.sorted b) := by
  have sortedFit : ∀ entry ∈ Assoc.sorted b, entry.2.Interchangeable := fun entry member =>
    fit entry (Assoc.mem_of_mem_sorted member)
  refine ⟨members_readBack Json.reorders_id fit, ?_⟩
  have sorted : b.toJson.canonical =
      .object ((Assoc.sorted b).map fun entry => (entry.1, entry.2.toJson.canonical)) := by
    unfold toJson
    rw [Json.canonical, Json.canonicalMembers_eq, List.map_map]
    exact congrArg Json.object (Assoc.sorted_map (fun v => v.toJson.canonical) b)
  rw [sorted, members_readBack Json.reorders_canonical sortedFit]

namespace Costs

/-- Written by name, the columns come the other way round. -/
def columns : Structure := ⟨[⟨"visit", .integer, .identifier⟩, ⟨"cost", .number, .measure⟩], by decide⟩

def costs : Dataset :=
  ⟨columns, [⟨columns, [.integer 2, .number 1.5]⟩, ⟨columns, [.integer 1, .null]⟩]⟩

def bindings : Bindings := [("costs", .dataset costs), ("limit", .number 0.5), ("owner", .null)]

end Costs

open Costs in
theorem costs_readBack : (∀ entry ∈ bindings, entry.2.Interchangeable) ∧
    Bindings.ofJson bindings.toJson = .ok bindings ∧
      Bindings.ofJson bindings.toJson.canonical = .ok (Assoc.sorted bindings) := by
  have whole : costs.Interchangeable := by
    constructor
    · simp [Dataset.Exact, costs, columns, Value.isPlain, Value.type?]
    · have high : (1.5 : Float).isFinite := by decide
      simp [costs, Value.Finite, high]
  have fit : ∀ entry ∈ bindings, entry.2.Interchangeable := by
    have half : (0.5 : Float).isFinite := by decide
    simp [bindings, Value.Interchangeable, whole, Value.Finite, half]
  exact ⟨fit, Bindings.ofJson_toJson fit⟩

/-- The number beyond all others comes back as NULL. -/
example : Bindings.ofJson (Bindings.toJson [("x", .number (.ofBits 0x7FF0000000000000))]) =
    .ok [("x", .null)] := rfl

end DatasetScript
