import DatasetScript.Proofs.Arranging
import DatasetScript.Proofs.Weakening
/-!
# Filters around other clauses

A filter by a conjunction can be taken in two steps, and a filter after a projection can be taken before
it. Main statements: `keepRows_fused` and `filter_fused`, `keepRows_arranged` and
`filter_before_projection`.
-/

namespace DatasetScript

section

variable {f g : Formula .boolean} {rows kept : List Row} {r : Row}

/-! ### Two filters in one -/

theorem kleeneAnd_eq_true_iff {a b : Option Bool} :
    Checking.kleeneAnd a b = some true ↔ a = some true ∧ b = some true := by
  rcases a with _ | _ | _ <;> rcases b with _ | _ | _ <;> decide

theorem keepRows_cons_ok (h : Query.keepRows f (r :: rows) = .ok kept) :
    ∃ keep later, f r.env = .ok keep ∧ Query.keepRows f rows = .ok later ∧
      kept = if keep = some true then r :: later else later := by
  unfold Query.keepRows at h
  obtain ⟨keep, resolved, h⟩ := bind_ok h
  obtain ⟨later, others, h⟩ := bind_ok h
  exact ⟨keep, later, resolved, others, pure_ok h⟩

theorem keepRows_cons {keep : Option Bool} {later : List Row} (resolved : f r.env = .ok keep)
    (others : Query.keepRows f rows = .ok later) :
    Query.keepRows f (r :: rows) = .ok (if keep = some true then r :: later else later) := by
  unfold Query.keepRows
  rw [resolved, others]
  rfl

/-- The second condition is resolved unless the first is false. -/
theorem conjunction_ok {env : Env} {keep : Option Bool}
    (h : Checking.conjunction f g env = .ok keep) : ∃ a, f env = .ok a ∧
      (a = some false ∧ keep = some false ∨ ∃ b, g env = .ok b ∧ keep = Checking.kleeneAnd a b) := by
  unfold Checking.conjunction at h
  obtain ⟨a, first, h⟩ := bind_ok h
  refine ⟨a, first, ?_⟩
  split at h
  · rename_i refuted
    exact .inl ⟨refuted, pure_ok h⟩
  · obtain ⟨b, second, h⟩ := bind_ok h
    exact .inr ⟨b, second, pure_ok h⟩

/-- A row that fails the first condition is not there for the second, which may not resolve on it. -/
theorem keepRows_fused {fused : Formula .boolean}
    (acts : ∀ env keep, fused env = .ok keep → Checking.conjunction f g env = .ok keep)
    (h : Query.keepRows fused rows = .ok kept) :
    ∃ mid, Query.keepRows f rows = .ok mid ∧ Query.keepRows g mid = .ok kept := by
  induction rows generalizing kept with
  | nil => exact ⟨[], rfl, h⟩
  | cons r rows ih =>
    obtain ⟨keep, later, resolved, others, rfl⟩ := keepRows_cons_ok h
    obtain ⟨mid, first, second⟩ := ih others
    obtain ⟨a, onFirst, ⟨rfl, rfl⟩ | ⟨b, onSecond, rfl⟩⟩ := conjunction_ok (acts _ _ resolved)
    · exact ⟨mid, keepRows_cons onFirst first, second⟩
    · have kept := keepRows_cons onFirst first
      simp only [kleeneAnd_eq_true_iff]
      by_cases holds : a = some true
      · rw [if_pos holds] at kept
        refine ⟨r :: mid, kept, ?_⟩
        rw [keepRows_cons onSecond second]
        simp only [holds, true_and]
      · rw [if_neg holds] at kept
        refine ⟨mid, kept, ?_⟩
        rw [second]
        simp only [holds, false_and, if_false]

theorem conjunction_operand [PatternLanguage] {scope : Scope} {p q : Node} {position : Option Position}
    (h : Operand.formula .boolean ⟨⟨.binary (.logical .and) p q, position⟩,
      Node.check scope ⟨.binary (.logical .and) p q, position⟩⟩ = .ok f) :
    ∃ l r, Operand.formula .boolean ⟨p, p.check scope⟩ = .ok l ∧
      Operand.formula .boolean ⟨q, q.check scope⟩ = .ok r ∧
      f = (Checking.conjunction l r).locate position := by
  obtain ⟨e, checked, typed⟩ := bind_ok h
  obtain ⟨inner, located, checked⟩ := bind_ok checked
  have logical : Checking.logical .and ⟨p, p.check scope⟩ ⟨q, q.check scope⟩ = .ok inner :=
    locate_eq_ok_iff.mp located
  obtain ⟨l, left, logical⟩ := bind_ok logical
  obtain ⟨r, right, logical⟩ := bind_ok logical
  obtain rfl := pure_ok logical
  obtain rfl := pure_ok checked
  exact ⟨l, r, left, right, (Except.ok.inj typed).symm⟩

end

section

variable {scope : Scope} {input narrow q : Query} {dataset predicate : Node} {f f' : Formula .boolean}
  {names : List String} {env : Env} {d : Dataset}

theorem clause_built [PatternLanguage] {clause : Clause} {position : Option Position} {built : Expr}
    (h : Node.check scope ⟨.clause dataset clause, position⟩ = .ok built) : ∃ q, built = .query q := by
  obtain ⟨inner, located, h⟩ := bind_ok h
  obtain ⟨input, -, made⟩ := bind_ok (locate_eq_ok_iff.mp located)
  obtain ⟨output, -, made⟩ := bind_ok made
  rw [pure_ok h, pure_ok made]
  exact ⟨output.locate position, rfl⟩

theorem check_filter [PatternLanguage]
    (typed : Operand.formula .boolean ⟨predicate, predicate.check input.layout.scope⟩ = .ok f) :
    (Clause.filter predicate).check input = .ok (input.filter f) := by
  change Checking.filter _ _ = _
  unfold Checking.filter
  rw [typed]
  rfl

theorem filter_run (resolved : input.run env = .ok d) : (input.filter f).run env =
    (Query.keepRows f d.rows).map (Dataset.mk input.layout) := by
  unfold Query.filter
  dsimp only
  rw [resolved, ok_bind]
  cases Query.keepRows f d.rows <;> rfl

theorem filter_run_ok (run : (input.filter f).run env = .ok d) :
    ∃ given kept, input.run env = .ok given ∧ Query.keepRows f given.rows = .ok kept ∧
      d = ⟨input.layout, kept⟩ := by
  obtain ⟨given, resolved, run⟩ := bind_ok run
  obtain ⟨kept, filtered, run⟩ := bind_ok run
  exact ⟨given, kept, resolved, filtered, pure_ok run⟩

/-- Where a filter by a conjunction builds and resolves, so do filters by its two sides, one after the
other, and to the same dataset. -/
theorem filter_fused [PatternLanguage] {dataset p q : Node} {inner outer : Option Position}
    {built : Expr} (checked : Node.check scope
      ⟨.clause dataset (.filter ⟨.binary (.logical .and) p q, inner⟩), outer⟩ = .ok built)
    (first second : Option Position) :
    ∃ nested, Node.check scope ⟨.clause ⟨.clause dataset (.filter p), first⟩ (.filter q), second⟩ =
        .ok nested ∧ nested.layout? = built.layout? ∧
      ∀ env v, built.resolve env = .ok v → nested.resolve env = .ok v := by
  obtain ⟨_, rfl⟩ := clause_built checked
  obtain ⟨input, _, inputChecked, made, rfl⟩ := clauseNode_query checked
  obtain ⟨_, typed, rfl⟩ := filter_query made
  obtain ⟨l, r, left, right, rfl⟩ := conjunction_operand typed
  have onFirst := clauseNode_of_query (.filter p) first inputChecked (check_filter left)
  have madeSecond : (Clause.filter q).check ((input.filter l).locate first) =
      .ok (((input.filter l).locate first).filter r) := check_filter right
  have onSecond := clauseNode_of_query (.filter q) second onFirst madeSecond
  refine ⟨_, onSecond, rfl, fun env v resolved => ?_⟩
  obtain ⟨d, run, resolved⟩ := bind_ok resolved
  obtain rfl := pure_ok resolved
  obtain ⟨given, kept, givenRun, filtered, rfl⟩ := filter_run_ok (locate_eq_ok_iff.mp run)
  obtain ⟨mid, byLeft, byRight⟩ := keepRows_fused (fun _ _ => locate_eq_ok_iff.mp) filtered
  have firstRun : ((input.filter l).locate first).run env = .ok ⟨input.layout, mid⟩ := by
    refine locate_eq_ok_iff.mpr ?_
    rw [filter_run givenRun, byLeft]
    rfl
  have secondRun : (((input.filter l).locate first).filter r).run env = .ok ⟨input.layout, kept⟩ := by
    rw [filter_run firstRun, byRight]
    rfl
  change (DatasetScript.locate second _ >>= _) = _
  rw [locate_eq_ok_iff.mpr secondRun]
  rfl

namespace Shadowing

/-- The condition that a column equals a number. -/
def equals (name : String) (i : Int64) : Node :=
  ⟨.binary (.comparison .eq) ⟨.name name, none⟩ ⟨.literal (.integer i), none⟩, none⟩

def named : Node := ⟨.name "readings", none⟩

/-- The expression `readings[filter x = 5 and id = 1]`. -/
def fused : Node :=
  ⟨.clause named (.filter ⟨.binary (.logical .and) (equals "x" 5) (equals "id" 1), none⟩), none⟩

/-- The expression `readings[filter x = 5][filter id = 1]`. -/
def nested : Node :=
  ⟨.clause ⟨.clause named (.filter (equals "x" 5)), none⟩ (.filter (equals "id" 1)), none⟩

end Shadowing

open Shadowing in
theorem readings_filtered_twice :
    ∃ e e', fused.check alone.scope = .ok e ∧ nested.check alone.scope = .ok e' ∧
      e.resolve alone.env = .ok readings ∧ e'.resolve alone.env = .ok readings := by
  have checked : ∃ e, fused.check alone.scope = .ok e ∧ e.resolve alone.env = .ok readings :=
    ⟨_, rfl, rfl⟩
  obtain ⟨e, checked, resolved⟩ := checked
  obtain ⟨e', nestedChecked, -, resolves⟩ := filter_fused checked none none
  exact ⟨e, e', checked, nestedChecked, resolved, resolves alone.env readings resolved⟩

/-! ### A filter before a projection -/

/-- Arranging rows is of no account to a condition that reads them alike. -/
theorem keepRows_arranged {s : Structure} {rows : List Row}
    (same : ∀ r ∈ rows, f (r.arranged s).env = f' r.env) :
    Query.keepRows f (rows.map (Row.arranged s)) =
      (Query.keepRows f' rows).map (List.map (Row.arranged s)) := by
  induction rows with
  | nil => rfl
  | cons r rows ih =>
    obtain ⟨head, later⟩ := List.forall_mem_cons.mp same
    rw [List.map_cons, Query.keepRows, Query.keepRows, head, ih later]
    cases f' r.env with
    | error e => rfl
    | ok keep =>
      cases Query.keepRows f' rows with
      | error e => rfl
      | ok kept =>
        by_cases holds : keep = some true
        · simp only [ok_bind, holds]
          rfl
        · simp only [ok_bind, Except.map, holds]
          rfl

theorem filter_boundIn (bound : input.BoundIn env) : (input.filter f).BoundIn env := by
  intro d run
  obtain ⟨given, kept, resolved, filtered, rfl⟩ := filter_run_ok run
  obtain ⟨own, tabular⟩ := bound given resolved
  refine ⟨rfl, fun r member => ?_⟩
  rw [← own]
  exact tabular r ((keepRows_sublist filtered).subset member)

theorem project_within (h : input.project names = .ok q) :
    ∀ c ∈ q.layout.components, c ∈ input.layout.components := by
  intro c member
  obtain ⟨columns, -⟩ := Query.project_made h
  obtain ⟨name, -, column⟩ := mapM_member columns member
  exact (Structure.get?_eq_some_iff.mp (Structure.column_ok column)).1

/-- The rows of a projection are those of its input, arranged by its structure. -/
theorem project_run (h : input.project names = .ok q) (bound : input.BoundIn env) :
    q.run env = (input.run env).map (Dataset.arranged q.layout) := by
  obtain ⟨columns, places, placed, runs⟩ := Query.project_made h
  rw [runs]
  cases resolved : input.run env with
  | error e => rfl
  | ok d =>
    obtain ⟨layout, tabular⟩ := bound d resolved
    rw [← Structure.columns_names columns, ← layout] at placed
    exact layRows_pick tabular placed

theorem columns_within {s t : Structure} (within : ∀ c ∈ s.components, c ∈ t.components) :
    s.scope.Within t.scope := by
  intro name declaration declared
  obtain ⟨type, known, rfl⟩ := Option.map_eq_some_iff.mp declared
  obtain ⟨c, found, rfl⟩ := Option.map_eq_some_iff.mp known
  obtain ⟨member, named⟩ := Structure.get?_eq_some_iff.mp found
  have wider := Structure.get?_eq_some_iff.mpr ⟨within c member, named⟩
  simp [Structure.scope, Structure.columnType?, wider]

theorem arranged_sameIn {s : Structure} {r : Row} (width : r.WellFormed)
    (within : ∀ c ∈ s.components, c ∈ r.layout.components) :
    Env.SameIn s.scope (r.arranged s).env r.env := by
  intro name declaration declared
  obtain ⟨type, known, -⟩ := Option.map_eq_some_iff.mp declared
  obtain ⟨c, found, -⟩ := Option.map_eq_some_iff.mp known
  obtain ⟨member, named⟩ := Structure.get?_eq_some_iff.mp found
  have held : name ∈ r.layout.names := List.mem_map.mpr ⟨c, within c member, named⟩
  exact get?_arranged_of_mem width held (List.mem_map.mpr ⟨c, member, named⟩)

/-- A filter after a projection may be taken before it. Errors differ at most in the positions that
they come to have on the way. -/
theorem filter_before_projection (made : input.project names = .ok narrow)
    (agree : f.Agree .exact (Env.SameIn narrow.layout.scope) f') (p p' : Option Position) :
    ∃ wide, Query.project ((input.filter f').locate p') names = .ok wide ∧
      wide.layout = narrow.layout ∧ ∀ env, input.BoundIn env →
        Agree .cause Eq (((narrow.locate p).filter f).run env) (wide.run env) := by
  obtain ⟨step, acts⟩ := (project_runsInput input.layout names).steps made
  have madeWide : Query.project ((input.filter f').locate p') names = .ok _ := acts _
  refine ⟨_, madeWide, rfl, fun env bound => ?_⟩
  have boundWide : ((input.filter f').locate p').BoundIn env := fun d run =>
    filter_boundIn bound d (locate_eq_ok_iff.mp run)
  rw [project_run madeWide boundWide]
  change Agree .cause Eq _
    ((DatasetScript.locate p' ((input.filter f').run env)).map (Dataset.arranged narrow.layout))
  have narrowRun : (narrow.locate p).run env = DatasetScript.locate p (narrow.run env) := rfl
  rw [project_run made bound] at narrowRun
  cases resolved : input.run env with
  | error e =>
    rw [resolved] at narrowRun
    simp only [Query.filter, resolved, narrowRun]
    exact rfl
  | ok d =>
    rw [resolved] at narrowRun
    have alike : ∀ r ∈ d.rows, f (r.arranged narrow.layout).env = f' r.env := by
      intro r member
      obtain ⟨layout, tabular⟩ := bound d resolved
      obtain ⟨own, width⟩ := tabular r member
      have within := project_within made
      rw [← layout, ← own] at within
      exact (agree _ _ (arranged_sameIn width within)).eq
    have narrowFiltered := filter_run (f := f) narrowRun
    rw [narrowFiltered, filter_run resolved, Dataset.arranged, keepRows_arranged alike]
    cases Query.keepRows f' d.rows <;> exact rfl

/-- Dropping columns is keeping the others, in the order of the structure. -/
theorem drop_eq_keep (known : ∀ name ∈ names, name ∈ input.layout.names) :
    Checking.drop input names =
      input.project (input.layout.names.filter fun name => name ∉ names) := by
  have none : (names.find? fun name => !input.layout.contains name) = none := by
    rw [List.find?_eq_none]
    intro name member
    have held := Structure.contains_iff.mpr (known name member)
    simp [held]
  unfold Checking.drop
  rw [none]

theorem exists_project (known : ∀ name ∈ names, name ∈ input.layout.names)
    (distinct : names.Nodup) : ∃ q, input.project names = .ok q := by
  have found : ∀ name ∈ names, ∃ c, input.layout.column name = .ok c := by
    intro name member
    obtain ⟨c, held⟩ := Structure.mem_names_iff.mp (known name member)
    exact ⟨c, Structure.column_of_get? held⟩
  obtain ⟨columns, columnsFound⟩ := exists_mapM found
  obtain ⟨places, placed⟩ := exists_mapM fun name member => Structure.exists_place (known name member)
  have nodup : (columns.map Component.name).Nodup := by
    rw [Structure.columns_names columnsFound]
    exact distinct
  unfold Query.project
  rw [columnsFound, ok_bind, placed, ok_bind, Structure.ofComponents_of_nodup nodup]
  exact ⟨_, rfl⟩

end

/-- A filter after a projection builds before it as well, with the same columns, and gives the same rows
in the same order or fails for the same cause wherever the rows of the dataset have its structure. And
dropping columns is keeping the others. -/
theorem filter_keep_commute [PatternLanguage] :
    (∀ (scope : Scope) (dataset predicate : Node) (names : List String) (input narrow : Query)
      (kept keptFiltered filtered filteredKept : Option Position),
      dataset.check scope = .ok (.query input) →
        Node.check scope ⟨.clause ⟨.clause dataset (.keep names), kept⟩ (.filter predicate),
          keptFiltered⟩ = .ok (.query narrow) →
        ∃ wide, Node.check scope ⟨.clause ⟨.clause dataset (.filter predicate), filtered⟩
            (.keep names), filteredKept⟩ = .ok (.query wide) ∧ wide.layout = narrow.layout ∧
          ∀ env, input.BoundIn env → (∃ d, narrow.run env = .ok d ∧ wide.run env = .ok d) ∨
            ∃ e e', narrow.run env = .error e ∧ wide.run env = .error e' ∧ e.cause = e'.cause) ∧
    ∀ (scope : Scope) (dataset : Node) (names : List String) (input : Query)
      (position : Option Position), dataset.check scope = .ok (.query input) →
        (∀ name ∈ names, name ∈ input.layout.names) →
          ∃ q, Node.check scope ⟨.clause dataset (.drop names), position⟩ = .ok (.query q) ∧
            Node.check scope ⟨.clause dataset
              (.keep (input.layout.names.filter fun name => name ∉ names)), position⟩ =
                .ok (.query q) := by
  constructor
  · intro scope dataset predicate names input narrow kept keptFiltered filtered filteredKept
      datasetChecked checked
    obtain ⟨_, _, keepChecked, made, rfl⟩ := clauseNode_query checked
    obtain ⟨f, typed, rfl⟩ := filter_query made
    obtain ⟨input', projected, again, projectMade, rfl⟩ := clauseNode_query keepChecked
    obtain rfl := check_unique datasetChecked again
    have project : input.project names = .ok projected := projectMade
    obtain ⟨e, predicateChecked, -⟩ := bind_ok typed
    have within := columns_within (project_within project)
    have weakened := exact_operand_agree (predicate.weaken within predicateChecked)
    obtain ⟨_, failed, -⟩ | ⟨_, f', typed', typedWide, agree⟩ := (formula_agree .boolean weakened).outcomes
    · cases typed.symm.trans failed
    · cases typed.symm.trans typed'
      obtain ⟨wide, wideMade, layout, runs⟩ := filter_before_projection project agree kept filtered
      have filterChecked := clauseNode_of_query (.filter predicate) filtered datasetChecked
        (check_filter typedWide)
      have wideChecked := clauseNode_of_query (.keep names) filteredKept filterChecked wideMade
      refine ⟨_, wideChecked, layout, fun env bound => ?_⟩
      have located : Agree .cause Eq ((((projected.locate kept).filter f).locate keptFiltered).run env)
          ((wide.locate filteredKept).run env) := (runs env bound).locate trivial
      obtain ⟨e, e', failed, failed', cause⟩ | ⟨d, _, run, run', rfl⟩ := located.alike
      · exact .inr ⟨e, e', failed, failed', cause⟩
      · exact .inl ⟨d, run, run'⟩
  · intro scope dataset names input position datasetChecked known
    have others : ∀ name ∈ input.layout.names.filter fun name => name ∉ names,
        name ∈ input.layout.names := fun name member => (List.mem_filter.mp member).1
    have distinct : (input.layout.names.filter fun name => name ∉ names).Nodup :=
      input.layout.nodup.filter _
    obtain ⟨q, project⟩ := exists_project others distinct
    have drop : (Clause.drop names).check input = .ok q := (drop_eq_keep known).trans project
    exact ⟨_, clauseNode_of_query (.drop names) position datasetChecked drop,
      clauseNode_of_query (.keep _) position datasetChecked project⟩

namespace Shadowing

/-- The expression `readings[keep x][filter x = 5]`. -/
def keptFirst : Node := ⟨.clause ⟨.clause named (.keep ["x"]), none⟩ (.filter (equals "x" 5)), none⟩

/-- The expression `readings[filter x = 5][keep x]`. -/
def filteredFirst : Node :=
  ⟨.clause ⟨.clause named (.filter (equals "x" 5)), none⟩ (.keep ["x"]), none⟩

theorem named_bound : ∀ q, named.check alone.scope = .ok (.query q) → q.BoundIn alone.env := by
  rintro q ⟨⟩ d ⟨⟩
  exact ⟨rfl, Dataset.tabular_singleton rfl⟩

end Shadowing

open Shadowing in
theorem readings_kept_after_filter :
    (∃ q q' d, keptFirst.check alone.scope = .ok (.query q) ∧
      filteredFirst.check alone.scope = .ok (.query q') ∧ q'.layout = q.layout ∧
      q.run alone.env = .ok d ∧ q'.run alone.env = .ok d) ∧
    ∃ q, Node.check alone.scope ⟨.clause named (.drop ["id"]), none⟩ = .ok (.query q) ∧
      Node.check alone.scope ⟨.clause named (.keep ["x"]), none⟩ = .ok (.query q) := by
  obtain ⟨commutes, drops⟩ := filter_keep_commute
  have known : ∃ q, named.check alone.scope = .ok (.query q) ∧ q.layout = columns := ⟨_, rfl, rfl⟩
  obtain ⟨input, checked, layout⟩ := known
  constructor
  · obtain ⟨wide, wideChecked, same, runs⟩ :=
      commutes alone.scope named (equals "x" 5) ["x"] input _ none none none none checked rfl
    obtain ⟨d, run, run'⟩ | ⟨e, -, failed, -⟩ := runs alone.env (named_bound input checked)
    · exact ⟨_, wide, d, rfl, wideChecked, same, run, run'⟩
    · cases failed
  · have held : ∀ name ∈ ["id"], name ∈ input.layout.names := by
      rw [layout]
      decide
    obtain ⟨q, dropped, kept⟩ := drops alone.scope named ["id"] input none checked held
    rw [layout] at kept
    exact ⟨q, dropped, kept⟩

end DatasetScript
