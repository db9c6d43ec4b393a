import DatasetScript.Proofs.JoinColumns
import DatasetScript.Proofs.Layout
/-!
# When joins can be planned

An inner, left or full join can be planned exactly if all its datasets have the key columns alike
and share no other column. Main statements: `planSteps_apart` for the steps of a plan, and
`join_planned_iff` for the expression.
-/

namespace DatasetScript

/-! ### Datasets of a join -/

/-- The name that a dataset goes by in a join. -/
def JoinOperand.name (o : JoinOperand) : String := Checking.joinName o.label o.dataset

theorem checkJoinOperands_eq_map [PatternLanguage] (scope : Scope) (operands : List JoinOperand) :
    checkJoinOperands scope operands =
      operands.map fun o => (o.label, ⟨o.dataset, o.dataset.check scope⟩) := by
  induction operands with
  | nil => rfl
  | cons o rest ih =>
    obtain ⟨dataset, label⟩ := o
    rw [checkJoinOperands, ih, List.map_cons]

/-- Datasets are taken under their names as long as these differ. -/
theorem joinOperands_of_queries {taken : List String} {operands : List (Option String × Operand)}
    {queries : List Query} (built : List.Forall₂ (fun o q => o.2.query = .ok q) operands queries)
    (distinct : (operands.map fun o => Checking.joinName o.1 o.2.node).Nodup)
    (fresh : ∀ o ∈ operands, Checking.joinName o.1 o.2.node ∉ taken) :
    Checking.joinOperands taken operands =
      .ok ((operands.map fun o => Checking.joinName o.1 o.2.node).zip queries) := by
  induction built generalizing taken with
  | nil => rfl
  | @cons o q operands queries query _ ih =>
    obtain ⟨label, operand⟩ := o
    obtain ⟨different, distinct⟩ := List.nodup_cons.mp distinct
    obtain ⟨new, fresh⟩ := List.forall_mem_cons.mp fresh
    have later := @ih (Checking.joinName label operand.node :: taken) distinct fun o member => by
      rw [List.mem_cons, not_or]
      exact ⟨fun same => different (List.mem_map.mpr ⟨o, member, same⟩), fresh o member⟩
    unfold Checking.joinOperands
    dsimp only at query new ⊢
    rw [query, ok_bind, if_neg new, later]
    rfl

section

variable {scope : Scope} {operands : List JoinOperand} {queries : List Query}

theorem checkJoinOperands_query [PatternLanguage]
    (built : List.Forall₂ (fun o q => o.dataset.check scope = .ok (.query q)) operands queries) :
    List.Forall₂ (fun o q => o.2.query = .ok q) (checkJoinOperands scope operands) queries := by
  rw [checkJoinOperands_eq_map, List.forall₂_map_left_iff]
  refine built.imp fun o q checked => ?_
  unfold Operand.query
  rw [checked]
  rfl

theorem zip_layouts {R : JoinOperand → Query → Prop} (related : List.Forall₂ R operands queries) :
    ((operands.map JoinOperand.name).zip queries).map (·.2.layout) = queries.map Query.layout := by
  have second : ((operands.map JoinOperand.name).zip queries).map Prod.snd = queries :=
    List.map_snd_zip (Nat.le_of_eq (by rw [List.length_map, related.length_eq]))
  conv_rhs => rw [← second, List.map_map]
  rfl

/-- A join of datasets under different names is checked by finding its key columns and planning. -/
theorem joinNode_ok_iff [PatternLanguage] {kind : JoinKind} {keys : List String}
    {p : Option Position} {e : Expr} (some_operand : operands ≠ [])
    (built : List.Forall₂ (fun o q => o.dataset.check scope = .ok (.query q)) operands queries)
    (distinct : (operands.map JoinOperand.name).Nodup) :
    Node.check scope ⟨.join kind operands keys, p⟩ = .ok e ↔
      ∃ columns q, Checking.keyComponents kind (queries.map Query.layout) keys = .ok columns ∧
        Query.join kind ((operands.map JoinOperand.name).zip queries) columns = .ok q ∧
        e = .query (q.locate p) := by
  have names : ((checkJoinOperands scope operands).map fun o => Checking.joinName o.1 o.2.node) =
      operands.map JoinOperand.name := by
    rw [checkJoinOperands_eq_map, List.map_map]
    rfl
  have named : Checking.joinOperands [] (checkJoinOperands scope operands) = _ :=
    joinOperands_of_queries (checkJoinOperands_query built) (names ▸ distinct)
      fun _ _ => List.not_mem_nil
  have layouts := zip_layouts built
  have some_checked : (checkJoinOperands scope operands).isEmpty = false := by
    rw [checkJoinOperands_eq_map]
    simpa using some_operand
  have joined : Form.check scope (.join kind operands keys) = (do
      let columns ← Checking.keyComponents kind (queries.map Query.layout) keys
      return .query (← Query.join kind ((operands.map JoinOperand.name).zip queries) columns)) := by
    unfold Form.check Checking.join
    rw [some_checked, named, names]
    simp only [Bool.false_eq_true, if_false, ok_bind, layouts]
  constructor
  · intro h
    unfold Node.check at h
    obtain ⟨inner, made, h⟩ := bind_ok h
    rw [locate_eq_ok_iff, joined] at made
    obtain ⟨columns, found, made⟩ := bind_ok made
    obtain ⟨q, planned, made⟩ := bind_ok made
    rw [pure_ok made] at h
    exact ⟨columns, q, found, planned, pure_ok h⟩
  · rintro ⟨columns, q, found, planned, rfl⟩
    refine check_of_form _ p ?_
    rw [joined, found, ok_bind, planned]
    rfl

end

/-! ### Steps of a plan -/

/-- Structures that share no column other than the named ones. -/
def Apart (names : List String) (s t : Structure) : Prop :=
  ∀ name ∈ s.names, name ∈ t.names → name ∈ names

instance (names : List String) (s t : Structure) : Decidable (Apart names s t) :=
  inferInstanceAs (Decidable (∀ name ∈ s.names, name ∈ t.names → name ∈ names))

section

variable {names : List String} {kind : JoinKind} {label : String}

theorem appendColumns_of_apart {joined columns : List Component}
    (distinct : (columns.map Component.name).Nodup)
    (apart : ∀ c ∈ columns, c.name ∉ names → c.name ∉ joined.map Component.name) :
    JoinPlan.appendColumns kind names label joined columns =
      .ok (joined ++ columns.filter fun c => c.name ∉ names) := by
  induction columns generalizing joined with
  | nil => simp [JoinPlan.appendColumns]
  | cons c rest ih =>
    obtain ⟨different, distinct⟩ := List.nodup_cons.mp distinct
    obtain ⟨new, apart⟩ := List.forall_mem_cons.mp apart
    unfold JoinPlan.appendColumns
    by_cases isKey : c.name ∈ names
    · rw [if_pos isKey, ih distinct apart]
      simp [isKey]
    · rw [if_neg isKey, if_neg (new isKey), ih distinct]
      · simp [isKey]
      · intro d member other
        rw [List.map_append, List.mem_append, not_or]
        refine ⟨apart d member other, fun same => different ?_⟩
        rw [List.map_singleton, List.mem_singleton] at same
        exact List.mem_map.mpr ⟨d, member, same⟩

theorem apart_of_appendColumns {joined columns out : List Component} (equi : kind ≠ .cross)
    (h : JoinPlan.appendColumns kind names label joined columns = .ok out) :
    ∀ c ∈ columns, c.name ∉ names → c.name ∉ joined.map Component.name := by
  induction columns generalizing joined with
  | nil => exact nofun
  | cons c rest ih =>
    unfold JoinPlan.appendColumns at h
    split at h
    · rename_i isKey
      exact List.forall_mem_cons.mpr ⟨fun other => (other isKey).elim, ih h⟩
    · split at h
      · cases h
      · rename_i new
        refine List.forall_mem_cons.mpr ⟨fun _ => new, fun d member other taken => ?_⟩
        refine ih h d member other ?_
        rw [List.map_append]
        exact List.mem_append_left _ taken

variable {s t u : Structure}

theorem apart_iff : Apart names s t ↔
    ∀ c ∈ t.components, c.name ∉ names → c.name ∉ s.components.map Component.name := by
  constructor
  · intro apart c member other known
    exact other (apart c.name known (List.mem_map_of_mem member))
  · intro apart name known member
    obtain ⟨c, here, rfl⟩ := List.mem_map.mp member
    by_contra other
    exact apart c here other known

/-- Columns are apart from those joined so far if they are from each part of them. -/
theorem apart_appended (columns : u.components = s.components ++ t.others names) {v : Structure} :
    Apart names u v ↔ Apart names s v ∧ Apart names t v := by
  have known (name : String) : name ∈ u.names ↔ name ∈ s.names ∨ name ∈ t.names ∧ name ∉ names := by
    simp only [Structure.names, columns, Structure.others, List.map_append, List.mem_append,
      List.mem_map, List.mem_filter, decide_eq_true_eq]
    grind
  unfold Apart
  simp only [known]
  grind

/-- The structure that the columns of a step make up. -/
theorem exists_appended (apart : Apart names s t) :
    ∃ u : Structure, u.components = s.components ++ t.others names := by
  have distinct : ((s.components ++ t.others names).map Component.name).Nodup := by
    rw [List.map_append, List.nodup_append]
    refine ⟨s.nodup, t.nodup.sublist (List.filter_sublist.map _), ?_⟩
    rintro name known other member rfl
    obtain ⟨c, here, rfl⟩ := List.mem_map.mp member
    obtain ⟨here, other⟩ := List.mem_filter.mp here
    exact apart_iff.mp apart c here (by simpa using other) known
  exact ⟨⟨_, distinct⟩, rfl⟩

theorem exists_stepOf (left : ∀ name ∈ names, name ∈ s.names)
    (right : ∀ name ∈ names, name ∈ t.names) : ∃ step, StepOf names s t step := by
  obtain ⟨leftKeys, left⟩ := exists_mapM fun name member =>
    Structure.exists_place (left name member)
  obtain ⟨rightKeys, right⟩ := exists_mapM fun name member =>
    Structure.exists_place (right name member)
  exact ⟨⟨leftKeys, rightKeys, JoinPlan.otherPlaces names t, s.size⟩, left, right, rfl, rfl⟩

theorem planSteps_of_apart {joined : Structure} {rest : List (String × Structure)}
    (own : ∀ name ∈ names, name ∈ joined.names)
    (others : ∀ o ∈ rest, ∀ name ∈ names, name ∈ o.2.names)
    (apart : (joined :: rest.map (·.2)).Pairwise (Apart names)) :
    ∃ steps last, JoinPlan.planSteps kind names joined rest = .ok (steps, last) := by
  induction rest generalizing joined with
  | nil => exact ⟨[], joined, rfl⟩
  | cons o rest ih =>
    obtain ⟨label, t⟩ := o
    obtain ⟨fromJoined, fromNext, later⟩ := by
      simpa only [List.map_cons, List.pairwise_cons] using apart
    obtain ⟨apartNext, apartRest⟩ := List.forall_mem_cons.mp fromJoined
    obtain ⟨right, others⟩ := List.forall_mem_cons.mp others
    obtain ⟨next, columns⟩ := exists_appended apartNext
    obtain ⟨step, places⟩ := exists_stepOf own right
    have appended : JoinPlan.appendColumns kind names label joined.components t.components =
        .ok next.components := by
      rw [columns]
      exact appendColumns_of_apart t.nodup (apart_iff.mp apartNext)
    have ownNext : ∀ name ∈ names, name ∈ next.names := by
      intro name isKey
      rw [Structure.names, columns, List.map_append]
      exact List.mem_append_left _ (own name isKey)
    obtain ⟨steps, last, planned⟩ := ih ownNext others
      (List.pairwise_cons.mpr ⟨fun u member => (apart_appended columns).mpr
        ⟨apartRest u member, fromNext u member⟩, later⟩)
    exact ⟨step :: steps, last, planSteps_of_step appended places planned⟩

/-- The steps of a plan append the columns of each dataset that are not keys, and no others are in
two of the datasets. -/
theorem planSteps_apart {joined last : Structure} {rest : List (String × Structure)}
    {steps : List JoinStep} (equi : kind ≠ .cross)
    (planned : JoinPlan.planSteps kind names joined rest = .ok (steps, last)) :
    (joined :: rest.map (·.2)).Pairwise (Apart names) ∧
      last.components = joined.components ++ rest.flatMap fun o => o.2.others names := by
  induction rest generalizing joined steps with
  | nil =>
    cases planned
    exact ⟨List.pairwise_singleton _ _, (List.append_nil _).symm⟩
  | cons o rest ih =>
    obtain ⟨label, t⟩ := o
    obtain ⟨next, step, laterSteps, appended, -, plannedRest, rfl⟩ := planSteps_cons planned
    have columns := appendColumns_ok equi appended
    obtain ⟨later, all⟩ := ih plannedRest
    obtain ⟨fromNext, later⟩ := List.pairwise_cons.mp later
    -- what is apart from the columns joined so far is apart from each dataset they come from
    have apart (u : Structure) (member : u ∈ rest.map (·.2)) :=
      (apart_appended columns).mp (fromNext u member)
    refine ⟨List.pairwise_cons.mpr ⟨List.forall_mem_cons.mpr
      ⟨?_, fun u member => (apart u member).1⟩,
      List.pairwise_cons.mpr ⟨fun u member => (apart u member).2, later⟩⟩, ?_⟩
    · exact apart_iff.mpr (apart_of_appendColumns equi appended)
    · rw [all, columns, List.flatMap_cons, List.append_assoc]
      rfl

/-- A plan is made exactly if all datasets have the keys and are apart otherwise. -/
theorem ofOperands_ok_iff {first : Structure} {rest : List (String × Structure)}
    {keys : List Component} (equi : kind ≠ .cross) :
    (∃ plan, JoinPlan.ofOperands kind ((label, first) :: rest) keys = .ok plan) ↔
      (∀ s ∈ first :: rest.map (·.2), ∀ key ∈ keys, key ∈ s.components) ∧
        (first :: rest.map (·.2)).Pairwise (Apart (keys.map Component.name)) := by
  constructor
  · rintro ⟨plan, planned⟩
    obtain ⟨-, shared, steps⟩ := ofOperands_cons planned
    simp only [if_neg equi] at shared steps
    refine ⟨fun s member key isKey => ?_, (planSteps_apart equi steps).1⟩
    obtain ⟨o, here, rfl⟩ : ∃ o ∈ (label, first) :: rest, o.2 = s := List.mem_map.mp member
    exact (Structure.get?_eq_some_iff.mp (shared o here key isKey)).1
  · rintro ⟨shared, apart⟩
    have known : ∀ o ∈ (label, first) :: rest, ∀ key ∈ keys, key ∈ o.2.components :=
      fun o member => shared o.2 (List.mem_map_of_mem (f := Prod.snd) member)
    have checked : ((label, first) :: rest).forM (fun o => JoinPlan.checkKeysOf keys o.1 o.2) =
        .ok () := forM_of_forall fun o member => forM_of_forall fun key isKey =>
        checkKey_of_get? (Structure.get?_eq_some_iff.mpr ⟨known o member key isKey, rfl⟩)
    have named : ∀ o ∈ (label, first) :: rest, ∀ name ∈ keys.map Component.name, name ∈ o.2.names :=
      fun o member => List.forall_mem_map.mpr fun key isKey =>
        List.mem_map_of_mem (known o member key isKey)
    obtain ⟨own, others⟩ := List.forall_mem_cons.mp named
    obtain ⟨steps, last, planned⟩ : ∃ steps last,
        JoinPlan.planSteps kind _ first rest = .ok (steps, last) := planSteps_of_apart own others apart
    refine ⟨⟨kind, steps, last⟩, ?_⟩
    unfold JoinPlan.ofOperands
    simp only [if_neg equi]
    rw [checked, ok_bind, planned]
    rfl

end

/-! ### Keys -/

/-- The names of the keys: those that are given or, where none are, those of the identifiers of the
first dataset that all the others have with the same type and role. -/
def joinKeys (given : List String) : List Structure → List String
  | [] => given
  | first :: rest =>
    if given = [] then
      (first.components.filter fun c => c.role = .identifier ∧ ∀ s ∈ rest, c ∈ s.components).map
        Component.name
    else given

/-- All datasets have the keys with the type and role that the first one gives them, and any other
column is in one of the datasets only. There has to be a dataset. -/
def Joinable (given : List String) : List Structure → Prop
  | [] => False
  | first :: rest =>
    (∀ name ∈ joinKeys given (first :: rest), ∃ c ∈ first.components, c.name = name ∧
      ∀ s ∈ rest, c ∈ s.components) ∧
    (first :: rest).Pairwise (Apart (joinKeys given (first :: rest)))

instance (given : List String) :
    (structures : List Structure) → Decidable (Joinable given structures)
  | [] => inferInstanceAs (Decidable False)
  | first :: rest => inferInstanceAs (Decidable
      ((∀ name ∈ joinKeys given (first :: rest), ∃ c ∈ first.components, c.name = name ∧
        ∀ s ∈ rest, c ∈ s.components) ∧
      (first :: rest).Pairwise (Apart (joinKeys given (first :: rest)))))

/-- The columns of the first dataset, then those of the others that are not keys. -/
def columnsOfJoin (given : List String) : List Structure → List Component
  | [] => []
  | first :: rest =>
    first.components ++ rest.flatMap (Structure.others (joinKeys given (first :: rest)))

section

variable {kind : JoinKind} {given : List String} {first : Structure} {rest : List Structure}
  {columns : List Component}

theorem commonIdentifiers_eq : Checking.commonIdentifiers (first :: rest) =
    first.components.filter fun c => c.role = .identifier ∧ ∀ s ∈ rest, c ∈ s.components := by
  change List.filter _ (List.filter _ first.components) = _
  rw [List.filter_filter]
  refine List.filter_congr fun c _ => ?_
  rw [Bool.eq_iff_iff, Bool.and_eq_true, List.all_eq_true, decide_eq_true_eq, and_comm]
  have found (s : Structure) : (s.get? c.name == some c) = true ↔ c ∈ s.components := by
    rw [beq_iff_eq, Structure.get?_eq_some_iff]
    exact and_iff_left rfl
  simp only [found, Component.isIdentifier, beq_iff_eq]

/-- What is found as keys are columns of the first dataset with the names of the keys. -/
theorem keyComponents_ok (equi : kind ≠ .cross)
    (found : Checking.keyComponents kind (first :: rest) given = .ok columns) :
    columns.map Component.name = joinKeys given (first :: rest) ∧
      ∀ key ∈ columns, key ∈ first.components := by
  cases given with
  | nil =>
    have common : Checking.keyComponents kind (first :: rest) [] =
        .ok (Checking.commonIdentifiers (first :: rest)) := by
      cases kind <;> first | contradiction | rfl
    cases common.symm.trans found
    rw [commonIdentifiers_eq]
    exact ⟨rfl, fun key member => (List.mem_filter.mp member).1⟩
  | cons name names =>
    have looked_up : (name :: names).mapM first.column = .ok columns := by
      cases kind <;> first | contradiction | exact found
    refine ⟨Structure.columns_names looked_up, fun key member => ?_⟩
    obtain ⟨name, -, column⟩ := mapM_member looked_up member
    exact (Structure.get?_eq_some_iff.mp (Structure.column_ok column)).1

theorem exists_keyComponents (known : ∀ name ∈ joinKeys given (first :: rest), name ∈ first.names) :
    ∃ columns, Checking.keyComponents kind (first :: rest) given = .ok columns := by
  cases given with
  | nil => cases kind <;> exact ⟨_, rfl⟩
  | cons name names =>
    obtain ⟨columns, found⟩ : ∃ columns, (name :: names).mapM first.column = .ok columns :=
      exists_mapM fun name member =>
        (Structure.mem_names_iff.mp (known name member)).imp fun _ => Structure.column_of_get?
    cases kind <;> first | exact ⟨columns, found⟩ | exact ⟨_, rfl⟩

/-- Where keys are found, datasets can be joined exactly if they have these keys and are apart. -/
theorem joinable_iff (named : columns.map Component.name = joinKeys given (first :: rest))
    (own : ∀ key ∈ columns, key ∈ first.components) :
    Joinable given (first :: rest) ↔
      (∀ s ∈ first :: rest, ∀ key ∈ columns, key ∈ s.components) ∧
        (first :: rest).Pairwise (Apart (columns.map Component.name)) := by
  rw [Joinable, ← named, List.forall_mem_map, List.forall_mem_cons]
  refine and_congr_left' ⟨fun shared => ⟨own, fun s later key member => ?_⟩,
    fun ⟨_, shared⟩ key member =>
      ⟨key, own key member, rfl, fun s later => shared s later key member⟩⟩
  obtain ⟨c, here, same, everywhere⟩ := shared key member
  rw [Structure.eq_of_mem_of_name (own key member) here same.symm]
  exact everywhere s later

end

section

variable {kind : JoinKind} {label : String} {first q : Query} {rest : List (String × Query)}
  {keys : List Component}

theorem join_ok_iff (equi : kind ≠ .cross) :
    (∃ q, Query.join kind ((label, first) :: rest) keys = .ok q) ↔
      (∀ s ∈ first.layout :: rest.map (·.2.layout), ∀ key ∈ keys, key ∈ s.components) ∧
        (first.layout :: rest.map (·.2.layout)).Pairwise (Apart (keys.map Component.name)) := by
  have planned : (∃ q, Query.join kind ((label, first) :: rest) keys = .ok q) ↔
      ∃ plan, JoinPlan.ofOperands kind
        ((label, first.layout) :: rest.map fun o => (o.1, o.2.layout)) keys = .ok plan := by
    constructor
    · rintro ⟨q, h⟩
      obtain ⟨plan, planned, -⟩ := bind_ok h
      exact ⟨plan, planned⟩
    · rintro ⟨plan, planned⟩
      unfold Query.join
      rw [List.map_cons, planned]
      exact ⟨_, rfl⟩
  rw [planned, ofOperands_ok_iff equi, List.map_map]
  rfl

theorem join_columns (equi : kind ≠ .cross)
    (h : Query.join kind ((label, first) :: rest) keys = .ok q) :
    q.layout.components = first.layout.components ++
      (rest.map (·.2.layout)).flatMap (Structure.others (keys.map Component.name)) := by
  obtain ⟨plan, planned, made⟩ := bind_ok h
  obtain ⟨-, -, steps⟩ := ofOperands_cons planned
  rw [if_neg equi] at steps
  rw [pure_ok made, (planSteps_apart equi steps).2, List.flatMap_map, List.flatMap_map]

end

/-- An inner, left or full join of datasets under different names can be planned exactly if they
have the keys alike and share no other column. It has the columns of the first one, then those of the
others that are not keys. -/
theorem join_planned_iff [PatternLanguage] {scope : Scope} {kind : JoinKind}
    {operands : List JoinOperand} {queries : List Query} {given : List String} {p : Option Position}
    (equi : kind ≠ .cross)
    (built : List.Forall₂ (fun o q => o.dataset.check scope = .ok (.query q)) operands queries)
    (distinct : (operands.map JoinOperand.name).Nodup) :
    ((∃ e, Node.check scope ⟨.join kind operands given, p⟩ = .ok e) ↔
      Joinable given (queries.map Query.layout)) ∧
      ∀ e, Node.check scope ⟨.join kind operands given, p⟩ = .ok e →
        ∃ q, e = .query q ∧
          q.layout.components = columnsOfJoin given (queries.map Query.layout) := by
  cases built with
  | nil => exact ⟨⟨nofun, nofun⟩, nofun⟩
  | @cons o first operands rest checked others =>
    have layouts : ((operands.map JoinOperand.name).zip rest).map (·.2.layout) =
        rest.map Query.layout := zip_layouts others
    have checks {e : Expr} : Node.check scope ⟨.join kind (o :: operands) given, p⟩ = .ok e ↔ _ :=
      joinNode_ok_iff (List.cons_ne_nil o operands) (.cons checked others) distinct
    simp only [List.map_cons, List.zip_cons_cons] at checks ⊢
    constructor
    · constructor
      · rintro ⟨e, h⟩
        obtain ⟨columns, q, found, joined, -⟩ := checks.mp h
        obtain ⟨named, own⟩ := keyComponents_ok equi found
        rw [joinable_iff named own, ← layouts]
        exact (join_ok_iff equi).mp ⟨q, joined⟩
      · intro joinable
        obtain ⟨columns, found⟩ : ∃ columns, Checking.keyComponents kind
            (first.layout :: rest.map Query.layout) given = .ok columns :=
          exists_keyComponents fun name isKey => by
            obtain ⟨c, here, rfl, -⟩ := joinable.1 name isKey
            exact List.mem_map_of_mem here
        obtain ⟨named, own⟩ := keyComponents_ok equi found
        rw [joinable_iff named own, ← layouts] at joinable
        obtain ⟨q, joined⟩ := (join_ok_iff equi).mpr joinable
        exact ⟨_, checks.mpr ⟨columns, q, found, joined, rfl⟩⟩
    · intro e h
      obtain ⟨columns, q, found, joined, rfl⟩ := checks.mp h
      obtain ⟨named, -⟩ := keyComponents_ok equi found
      refine ⟨_, rfl, ?_⟩
      change q.layout.components = _
      rw [join_columns equi joined, layouts, named]
      rfl

namespace Payroll

def idColumn : Component := ⟨"id", .string, .identifier⟩

def staff : Structure := ⟨[idColumn, ⟨"name", .string, .measure⟩], by decide⟩

def hours : Structure :=
  ⟨[⟨"day", .integer, .identifier⟩, idColumn, ⟨"worked", .integer, .measure⟩], by decide⟩

def wages : Structure := ⟨[⟨"wage", .number, .measure⟩, idColumn], by decide⟩

def bindings : Bindings :=
  [("staff", .dataset ⟨staff, []⟩), ("hours", .dataset ⟨hours, []⟩),
    ("wages", .dataset ⟨wages, []⟩)]

def operands : List JoinOperand :=
  [⟨⟨.name "staff", none⟩, none⟩, ⟨⟨.name "hours", none⟩, some "h"⟩,
    ⟨⟨.name "wages", none⟩, some "w"⟩]

def queries : List Query :=
  [⟨staff, Checking.boundDataset "staff" staff⟩, ⟨hours, Checking.boundDataset "hours" hours⟩,
    ⟨wages, Checking.boundDataset "wages" wages⟩].map (Query.locate none)

end Payroll

open Payroll in
/-- The staff joins with hours and wages by `id`, but not by `day`. -/
theorem payroll_planned_by_id :
    (∃ q, Node.check bindings.scope ⟨.join .left operands [], none⟩ = .ok (.query q) ∧
      q.layout.components = [idColumn, ⟨"name", .string, .measure⟩, ⟨"day", .integer, .identifier⟩,
        ⟨"worked", .integer, .measure⟩, ⟨"wage", .number, .measure⟩]) ∧
      ¬ ∃ e, Node.check bindings.scope ⟨.join .left operands ["day"], none⟩ = .ok e := by
  have built : List.Forall₂ (fun o q => o.dataset.check bindings.scope = .ok (.query q))
      operands queries := .cons rfl (.cons rfl (.cons rfl .nil))
  have distinct : (operands.map JoinOperand.name).Nodup := by decide
  have planned (given : List String) :=
    @join_planned_iff _ bindings.scope .left operands queries given none (by decide) built distinct
  constructor
  · obtain ⟨e, checked⟩ := (planned []).1.mpr (by decide)
    obtain ⟨q, rfl, columns⟩ := (planned []).2 e checked
    exact ⟨q, checked, columns⟩
  · rw [(planned ["day"]).1]
    decide

end DatasetScript
