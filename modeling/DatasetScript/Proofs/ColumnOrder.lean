import DatasetScript.Proofs.Arranging
import DatasetScript.Proofs.FreeNames
/-!
# Bound datasets in another column order

A bound dataset takes on the declared column order before anything else reads it, so its own order is
of no account. Main statements: `Dataset.Reordered.conform`, and `column_order_irrelevant` for whole
nodes.
-/

namespace DatasetScript

/-- The columns of the second dataset are those of the first at the given places, and so is every row
of it. -/
structure Dataset.Reordered (places : List Nat) (d d' : Dataset) : Prop where
  permutes : places.Perm (List.range d.layout.size)
  columns : d'.layout.components.map some = places.map (d.layout.components[·]?)
  rows : d'.rows = d.rows.map fun r => ⟨d'.layout, r.pick places⟩

/-- The environments differ at most in the column order of datasets. -/
def Env.Reordered (env env' : Env) : Prop :=
  ∀ name, env name = env' name ∨ ∃ d d' places, env name = some (.dataset d) ∧
    env' name = some (.dataset d') ∧ d.Tabular ∧ Dataset.Reordered places d d'

section

variable {places : List Nat} {d d' : Dataset} {s : Structure} {name : String}

namespace Dataset.Reordered

theorem perm (h : Dataset.Reordered places d d') :
    d'.layout.components.Perm d.layout.components := by
  have own : (List.range d.layout.size).map (d.layout.components[·]?) = d.layout.components.map some := by
    apply List.ext_getElem
    · simp [Structure.size]
    · intro i bound _
      have within : i < d.layout.components.length := by simpa [Structure.size] using bound
      simp [within]
  have columns : (d'.layout.components.map some).Perm (d.layout.components.map some) := by
    rw [h.columns, ← own]
    exact h.permutes.map _
  have back := columns.filterMap id
  simpa [List.filterMap_map] using back

theorem compatible (h : Dataset.Reordered places d d') : d'.layout.isCompatibleWith d.layout :=
  Structure.isCompatibleWith_iff_perm.mpr h.perm

theorem places_eq (h : Dataset.Reordered places d d') :
    d'.layout.names.mapM d.layout.place = .ok places := by
  have same : List.Forall₂ Eq (d'.layout.components.map some)
      (places.map (d.layout.components[·]?)) := by
    rw [List.forall₂_eq_eq_eq]
    exact h.columns
  have columns := List.forall₂_map_right_iff.mp (List.forall₂_map_left_iff.mp same)
  refine mapM_of_forall₂ (List.forall₂_map_left_iff.mpr (columns.imp fun c i here => ?_))
  exact Structure.place_of_indexOf? (Structure.indexOf?_eq_some_iff.mpr ⟨c, here.symm, rfl⟩)

theorem arranged (h : Dataset.Reordered places d d') (tabular : d.Tabular) :
    d' = d.arranged d'.layout := by
  have rows : d'.rows = d.rows.map (Row.arranged d'.layout) := by
    rw [h.rows]
    refine List.map_congr_left fun r member => ?_
    have placed := h.places_eq
    rw [← (tabular r member).1] at placed
    exact congrArg (Row.mk d'.layout) (pick_key placed)
  cases d'
  exact congrArg (Dataset.mk _) rows

/-- Both datasets take on one declared order, or neither does. -/
theorem conform (h : Dataset.Reordered places d d') (tabular : d.Tabular) (declared : Structure)
    (name : String) : Agree .placedKind Eq (d.conform declared name) (d'.conform declared name) := by
  have same := h.compatible
  have arranged := h.arranged tabular
  by_cases onFirst : d.layout.isCompatibleWith declared
  · have onSecond := Structure.isCompatibleWith_trans same onFirst
    have tabular' : d'.Tabular := by
      rw [arranged]
      exact arranged_tabular d'.layout d
    have within : ∀ name ∈ declared.names, name ∈ d'.layout.names := fun name =>
      (Structure.mem_names_of_isCompatibleWith onSecond).mpr
    rw [conform_eq tabular onFirst, conform_eq tabular' onSecond]
    change d.arranged declared = d'.arranged declared
    rw [arranged, Dataset.arranged_arranged]
    exact within
  · have offSecond : ¬ d'.layout.isCompatibleWith declared := fun onSecond =>
      onFirst (Structure.isCompatibleWith_trans (Structure.isCompatibleWith_symm same) onSecond)
    rw [conform_error onFirst, conform_error offSecond]
    exact ⟨rfl, rfl⟩

end Dataset.Reordered

end

/-! ### Variables -/

theorem boundDataset_reordered {env env' : Env} (reordered : env.Reordered env') (declared : Structure)
    (name : String) : Agree .placedKind Eq (Checking.boundDataset name declared env)
      (Checking.boundDataset name declared env') := by
  obtain same | ⟨d, d', places, first, second, tabular, h⟩ := reordered name
  · rw [boundDataset_congr declared same]
    exact .unplaced (.boundDataset name declared env')
  · unfold Checking.boundDataset
    rw [first, second]
    exact h.conform tabular declared name

/-- No dataset stands for a single value, in whatever order its columns are. -/
theorem payload_dataset (t : ScalarType) (d d' : Dataset) :
    t.payload (.dataset d) = t.payload (.dataset d') := by
  cases t <;> rfl

theorem payload_reordered {env env' : Env} (reordered : env.Reordered env') (t : ScalarType)
    (name : String) : Agree .placedKind Eq (Checking.boundValue name env >>= t.payload)
      (Checking.boundValue name env' >>= t.payload) := by
  have reflexive := Likeness.placedKind_reflexive
  obtain same | ⟨d, d', places, first, second, -, -⟩ := reordered name
  · rw [boundValue_congr same]
    exact .refl reflexive _
  · unfold Checking.boundValue
    rw [first, second, ok_bind, ok_bind, payload_dataset t d d']
    exact .refl reflexive _

theorem variableNamed_reordered (scope : Scope) (name : String) :
    ChecksAgree .placedKind Env.Reordered (Checking.variableNamed scope name)
      (Checking.variableNamed scope name) := by
  unfold Checking.variableNamed
  split
  · exact .same_error _ rfl
  · exact Expr.Agree.null
  · rename_i t _
    cases t with
    | dataset => exact .same_error _ rfl
    | scalar t => exact Expr.Agree.scalar fun _ _ reordered => payload_reordered reordered t name
  · exact Expr.Agree.query ⟨rfl, fun _ _ reordered => boundDataset_reordered reordered _ name⟩

/-! ### Nodes -/

/-- A checked node resolves alike where bound datasets have their columns in another order: to one
value, column orders included, or to errors of one kind at one position. A variable that is declared to
be a dataset and bound to one with other columns is a mismatch. -/
theorem column_order_irrelevant [PatternLanguage] :
    (∀ (node : Node) (scope : Scope) (e : Expr), node.check scope = .ok e →
      ∀ env env', Env.Reordered env env' →
        (∃ v, e.resolve env = .ok v ∧ e.resolve env' = .ok v) ∨
          ∃ error error', e.resolve env = .error error ∧ e.resolve env' = .error error' ∧
            error.cause.kind = error'.cause.kind ∧ error.position = error'.position) ∧
    ∀ (scope : Scope) (name : String) (declared : Structure) (position : Option Position),
      scope name = some (.dataset declared) →
        ∃ q, Node.check scope ⟨.name name, position⟩ = .ok (.query q) ∧ q.layout = declared ∧
          ∀ (env : Env) (d : Dataset), env name = some (.dataset d) →
            (¬ ∀ c, c ∈ d.layout.components ↔ c ∈ declared.components) →
              q.run env = .error ⟨.typeMismatch (.columns declared.names)
                (.columns d.layout.names) name, position⟩ := by
  constructor
  · intro node scope e checked env env' reordered
    have agree := check_agree_of_names Likeness.placedKind_reflexive node
      fun name _ => variableNamed_reordered scope name
    rw [checked] at agree
    have agree : e.Agree .placedKind Env.Reordered e := agree
    obtain ⟨error, error', failed, failed', alike⟩ | ⟨v, _, resolved, resolved', rfl⟩ :=
      (agree.resolve reordered).alike
    · exact .inr ⟨error, error', failed, failed', alike⟩
    · exact .inl ⟨v, resolved, resolved'⟩
  · intro scope name declared position known
    have checked : (Form.name name).check scope =
        .ok (.query ⟨declared, Checking.boundDataset name declared⟩) := by
      unfold Form.check Checking.variableNamed
      rw [known]
    refine ⟨_, check_of_form (.name name) position checked, rfl, fun env d bound other => ?_⟩
    rw [← Structure.isCompatibleWith_iff_mem] at other
    change DatasetScript.locate position (Checking.boundDataset name declared env) = _
    have run : Checking.boundDataset name declared env = d.conform declared name := by
      unfold Checking.boundDataset
      rw [bound]
    rw [run, conform_error other]
    rfl

namespace Branches

/-- The bindings with the columns of the second dataset exchanged. -/
def straightBindings : Bindings := bindings pair pair [⟨pair, [.integer 1, .string "one"]⟩]

/-- The expression `b[filter x = "one"]`. -/
def ones : Node :=
  ⟨.clause second (.filter ⟨.binary (.comparison .eq) ⟨.name "x", none⟩
    ⟨.literal (.string "one"), none⟩, none⟩), none⟩

theorem straight_reordered : swappedBindings.env.Reordered straightBindings.env := by
  have tabular : Dataset.Tabular ⟨swapped, [swappedRow]⟩ :=
    Dataset.tabular_singleton rfl
  intro name
  by_cases isSecond : name = "b"
  · subst isSecond
    exact .inr ⟨_, _, [1, 0], rfl, rfl, tabular, by decide, by decide, rfl⟩
  · left
    have other : "b" ≠ name := Ne.symm isSecond
    simp [Bindings.env, swappedBindings, straightBindings, bindings, Assoc.find?_cons, other]

end Branches

open Branches in
theorem filtered_alike_in_both_orders :
    swappedBindings.env.Reordered straightBindings.env ∧
      (∃ e v, ones.check swappedBindings.scope = .ok e ∧
        e.resolve swappedBindings.env = .ok v ∧ e.resolve straightBindings.env = .ok v) ∧
      ∃ q, second.check swappedBindings.scope = .ok (.query q) ∧
        q.run (bindings pair .empty []).env =
          .error (.typeMismatch (.columns ["x", "id"]) (.columns []) "b") := by
  obtain ⟨nodes, names⟩ := column_order_irrelevant
  refine ⟨straight_reordered, ?_, ?_⟩
  · obtain ⟨v, resolved, resolved'⟩ | ⟨error, -, failed, -⟩ :=
      nodes ones swappedBindings.scope _ rfl _ _ straight_reordered
    · exact ⟨_, v, rfl, resolved, resolved'⟩
    · cases failed
  · obtain ⟨q, checked, -, mismatch⟩ := names swappedBindings.scope "b" swapped none rfl
    refine ⟨q, checked, mismatch _ ⟨.empty, []⟩ rfl fun same => ?_⟩
    have member := (same ⟨"x", .string, .measure⟩).mpr (by decide)
    cases member

end DatasetScript
