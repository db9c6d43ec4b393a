import DatasetScript.Proofs.Inlining
import DatasetScript.Interchange.Value
/-!
# Regular datasets

In a regular dataset every row has the columns of the dataset, in whatever order, and a cell for each
of its own columns. Datasets are regular however they are built, and stay so: resolving a checked
node where bound datasets are regular gives a regular one. Main statements: `run_regular`, and
`Dataset.Reachable.regular` for every dataset that building and resolving can lead to.
-/

namespace DatasetScript

/-- Every row has the columns of the dataset in some order, with a cell for each. -/
def Dataset.Regular (d : Dataset) : Prop :=
  ∀ r ∈ d.rows, r.layout.isCompatibleWith d.layout ∧ r.WellFormed

/-- Names that are declared to be datasets are bound to regular ones, if to datasets at all. -/
def Env.RegularIn (env : Env) (scope : Scope) : Prop :=
  ∀ name layout d, scope name = some (.dataset layout) → env name = some (.dataset d) → d.Regular

/-! ### Built datasets -/

theorem regular_of_laidOut {d : Dataset} {s : Structure} (laid : d.LaidOutBy s)
    (width : ∀ r ∈ d.rows, r.WellFormed) : d.Regular := by
  intro r member
  rw [laid.2 r member, laid.1]
  exact ⟨Structure.isCompatibleWith_refl s, width r member⟩

theorem layRows_regular {s : Structure} {rows : List (List Value)} {d : Dataset}
    (h : Query.layRows s rows = .ok d) : d.Regular := by
  refine regular_of_laidOut (layRows_laidOut h) fun r member => ?_
  obtain ⟨width, rfl⟩ := layRows_eq_ok_iff.mp h
  obtain ⟨cells, here, rfl⟩ := List.mem_map.mp member
  exact width cells here

theorem set_wellFormed {r t : Row} {name : String} {v : Value} (h : r.set name v = .ok t)
    (width : r.WellFormed) : t.WellFormed := by
  unfold Row.set at h
  obtain ⟨i, -, h⟩ := bind_ok h
  rw [pure_ok h]
  simpa [Row.WellFormed] using width

theorem setAll_wellFormed {r t : Row} {entries : List (String × Value)}
    (h : r.setAll entries = .ok t) (width : r.WellFormed) : t.WellFormed :=
  setAll_induction h width set_wellFormed

theorem rowOfEntries_laidOut {s : Structure} {entries : List (String × Value)} {r : Row}
    (h : Row.ofEntries s entries = .ok r) : r.layout = s ∧ r.WellFormed :=
  ⟨setAll_layout h, setAll_wellFormed h List.length_replicate⟩

theorem ofEntries_regular {s : Structure} {rows : List (List (String × Value))} {d : Dataset}
    (h : Dataset.ofEntries s rows = .ok d) : d.Regular := by
  refine regular_of_laidOut (ofEntries_laidOut h) fun r member => ?_
  unfold Dataset.ofEntries at h
  obtain ⟨laid, each, h⟩ := bind_ok h
  rw [pure_ok h] at member
  obtain ⟨entries, -, made⟩ := mapM_member each member
  exact (rowOfEntries_laidOut made).2

theorem ofJson_regular {columns : Json} {rows : Option Json} {d : Dataset}
    (h : Dataset.ofJson columns rows = .ok d) : d.Regular := by
  unfold Dataset.ofJson at h
  split at h
  · cases h
  · obtain ⟨layout, -, h⟩ := bind_ok h
    obtain ⟨texts, -, h⟩ := bind_ok h
    obtain ⟨rows, each, h⟩ := bind_ok h
    rw [pure_ok h]
    intro r member
    obtain ⟨j, -, made⟩ := mapM_member each member
    unfold Row.ofJson at made
    split at made
    · obtain ⟨cells, -, made⟩ := bind_ok made
      obtain ⟨own, width⟩ := rowOfEntries_laidOut made
      rw [own]
      exact ⟨Structure.isCompatibleWith_refl layout, width⟩
    · cases made

/-! ### Resolved datasets -/

theorem conform_regular {declared : Structure} {name : String} {d c : Dataset} (regular : d.Regular)
    (h : d.conform declared name = .ok c) : c.Regular := by
  unfold Dataset.conform at h
  split at h
  · cases h
  · split at h
    · rw [← Except.ok.inj h]
      exact regular
    · exact ofEntries_regular h

theorem boundDataset_regular {scope : Scope} {env : Env} {name : String} {declared : Structure}
    {d : Dataset} (regular : env.RegularIn scope) (known : scope name = some (.dataset declared))
    (h : Checking.boundDataset name declared env = .ok d) : d.Regular := by
  unfold Checking.boundDataset at h
  split at h
  · rename_i bound found
    exact conform_regular (regular name declared bound known found) h
  · cases h
  · cases h

theorem keepRows_regular {input : Structure} {predicate : Formula .boolean} {d : Dataset}
    {kept : List Row} (regular : d.Regular) (own : d.layout.isCompatibleWith input)
    (h : Query.keepRows predicate d.rows = .ok kept) : Dataset.Regular ⟨input, kept⟩ := by
  intro r member
  obtain ⟨columns, width⟩ := regular r ((keepRows_sublist h).subset member)
  exact ⟨Structure.isCompatibleWith_trans columns own, width⟩

/-- Where bound datasets are regular so are resolved ones, with the columns that checking finds. -/
theorem Node.Resolves.regular [PatternLanguage] {scope : Scope} {env : Env}
    (regular : env.RegularIn scope) {node : Node} {s : Structure} {d : Dataset}
    (h : node.Resolves scope env s d) : d.Regular ∧ d.layout.isCompatibleWith s := by
  induction h with
  | bound _ declared held =>
    refine ⟨boundDataset_regular regular declared held, ?_⟩
    rw [boundDataset_declared held]
    exact Structure.isCompatibleWith_refl _
  | laid _ _ _ laid =>
    refine ⟨layRows_regular laid, ?_⟩
    rw [(layRows_laidOut laid).1]
    exact Structure.isCompatibleWith_refl _
  | parenthesis _ ih => exact ih
  | first _ _ _ _ ih => exact ih
  | second _ _ _ compatible _ ih =>
    obtain ⟨rows, own⟩ := ih
    exact ⟨rows, Structure.isCompatibleWith_trans own (Structure.isCompatibleWith_symm compatible)⟩
  | filtered _ keeps _ ih =>
    obtain ⟨rows, own⟩ := ih
    exact ⟨keepRows_regular rows own keeps, Structure.isCompatibleWith_refl _⟩

theorem run_regular [PatternLanguage] {scope : Scope} {env : Env} (regular : env.RegularIn scope)
    (node : Node) {q : Query} {d : Dataset} (checked : node.check scope = .ok (.query q))
    (run : q.run env = .ok d) : d.Regular ∧ d.layout.isCompatibleWith q.layout :=
  (run_resolves node checked run).regular regular

/-! ### Reachable datasets -/

theorem resolve_dataset {e : Expr} {env : Env} {d : Dataset}
    (h : e.resolve env = .ok (.dataset d)) : ∃ q, e = .query q ∧ q.run env = .ok d := by
  cases e with
  | null => cases h
  | scalar t f =>
    obtain ⟨payload, -, made⟩ := bind_ok h
    have made := pure_ok made
    cases payload with
    | none => cases made
    | some c => cases t <;> cases made
  | query q =>
    obtain ⟨d', run, made⟩ := bind_ok h
    cases pure_ok made
    exact ⟨q, rfl, run⟩

section

variable [PatternLanguage]

/-- The datasets that come of building datasets and resolving nodes, over and over. -/
inductive Dataset.Reachable : Dataset → Prop
  | ofCells {layout : Structure} {rows : List (List Value)} {d : Dataset}
    (built : Dataset.ofCells layout rows = .ok d) : Dataset.Reachable d
  | ofEntries {layout : Structure} {rows : List (List (String × Value))} {d : Dataset}
    (built : Dataset.ofEntries layout rows = .ok d) : Dataset.Reachable d
  | empty (layout : Structure) : Dataset.Reachable (Dataset.empty layout)
  | ofJson {columns : Json} {rows : Option Json} {d : Dataset}
    (built : Dataset.ofJson columns rows = .ok d) : Dataset.Reachable d
  | resolved {node : Node} {scope : Scope} {env : Env} {e : Expr} {d : Dataset}
    (bound : ∀ name b, env name = some (.dataset b) → Dataset.Reachable b)
    (checked : node.check scope = .ok e) (value : e.resolve env = .ok (.dataset d)) :
    Dataset.Reachable d

/-- All datasets that names are bound to are reachable. -/
def Env.Reachable (env : Env) : Prop := ∀ name d, env name = some (.dataset d) → d.Reachable

theorem Dataset.Reachable.regular {d : Dataset} (h : d.Reachable) : d.Regular := by
  induction h with
  | ofCells built => exact layRows_regular built
  | ofEntries built => exact ofEntries_regular built
  | empty layout => exact nofun
  | ofJson built => exact ofJson_regular built
  | resolved _ checked value ih =>
    obtain ⟨q, rfl, run⟩ := resolve_dataset value
    exact (run_regular (fun name _ d _ found => ih name d found) _ checked run).1

theorem Env.Reachable.regularIn {env : Env} (h : env.Reachable) (scope : Scope) :
    env.RegularIn scope := fun name _ d _ found => (h name d found).regular

end

end DatasetScript
