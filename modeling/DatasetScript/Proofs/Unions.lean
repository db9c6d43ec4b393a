import DatasetScript.Proofs.Agreement
import DatasetScript.Proofs.Arranging
import DatasetScript.Proofs.Layout
/-!
# Rows of a union

A union stacks the rows of its operands, one operand after the other, under the columns of the first.
An operand that is a union itself may be replaced by its own operands. Main statements:
`union_eq_ok_iff`, `union_run`, and `union_stacks` for both facts about all unions.
-/

namespace DatasetScript

/-- The rows of datasets one after the other, arranged by one structure. -/
def Dataset.stacked (s : Structure) (ds : List Dataset) : Dataset :=
  ⟨s, (ds.flatMap Dataset.rows).map (Row.arranged s)⟩

section

variable {s t : Structure} {ds : List Dataset} {r : Row} {env : Env}

theorem stacked_tabular (s : Structure) (ds : List Dataset) : (Dataset.stacked s ds).Tabular := by
  intro r member
  obtain ⟨given, -, rfl⟩ := List.mem_map.mp member
  exact ⟨rfl, arranged_wellFormed s given⟩

/-- Stacking by one structure and then by another with the same columns. -/
theorem stacked_stacked (same : s.isCompatibleWith t) :
    Dataset.stacked t [Dataset.stacked s ds] = Dataset.stacked t ds := by
  have within : ∀ name ∈ t.names, name ∈ s.names := fun name =>
    (Structure.mem_names_of_isCompatibleWith same).mpr
  have twice : Row.arranged t ∘ Row.arranged s = Row.arranged t :=
    funext fun _ => arranged_arranged within
  simp [Dataset.stacked, twice]

theorem stacked_append {ds' es es' : List Dataset} (first : Dataset.stacked s ds = Dataset.stacked s es)
    (later : Dataset.stacked s ds' = Dataset.stacked s es') :
    Dataset.stacked s (ds ++ ds') = Dataset.stacked s (es ++ es') := by
  have first := congrArg Dataset.rows first
  have later := congrArg Dataset.rows later
  simp only [Dataset.stacked] at first later
  simp [Dataset.stacked, first, later]

/-- The rows hold what the given ones hold under every name. -/
theorem stacked_cells (tabular : ∀ d ∈ ds, d.Tabular) (same : ∀ d ∈ ds, d.layout.isCompatibleWith s) :
    List.Forall₂ (fun r given => r.get? = given.get?) (Dataset.stacked s ds).rows
      (ds.flatMap Dataset.rows) := by
  refine List.forall₂_map_left_iff.mpr (List.forall₂_same.mpr fun r member => ?_)
  obtain ⟨d, operand, held⟩ := List.mem_flatMap.mp member
  obtain ⟨own, width⟩ := tabular d operand r held
  refine get?_arranged_of_isCompatibleWith width ?_
  rw [own]
  exact same d operand

/-! ### Unions of queries -/

variable {q : Query} {operands rest : List Query} {first : Query}

theorem incompatibleOperand?_eq_none :
    Query.incompatibleOperand? s operands = none ↔ ∀ o ∈ operands, o.layout.isCompatibleWith s := by
  simp [Query.incompatibleOperand?, List.findIdx?_eq_none_iff]

theorem pick_placesOf (within : ∀ name ∈ s.names, name ∈ r.layout.names) :
    r.pick (Query.placesOf s r.layout) = r.key s.names := by
  have places : s.names.mapM r.layout.place = .ok (Query.placesOf s r.layout) := by
    refine mapM_of_forall fun name known => ?_
    obtain ⟨i, place⟩ := Structure.exists_place (within name known)
    rw [place, Structure.place_ok place]
    rfl
  exact pick_key places

theorem relaidRows_eq (bound : q.BoundIn env) (same : q.layout.isCompatibleWith s) :
    Query.relaidRows s env q = (q.run env).map fun d => d.rows.map (Row.key s.names) := by
  unfold Query.relaidRows
  cases run : q.run env with
  | error e => rfl
  | ok d =>
    obtain ⟨layout, tabular⟩ := bound d run
    refine congrArg Except.ok (List.map_congr_left fun r member => ?_)
    have own : r.layout = q.layout := (tabular r member).1.trans layout
    rw [← own] at same ⊢
    exact pick_placesOf fun name => (Structure.mem_names_of_isCompatibleWith same).mpr

/-- The rows of all operands, from any that are resolved. -/
def stackedRun (s : Structure) (operands : List Query) (env : Env) : Except Error Dataset := do
  return Dataset.stacked s (← operands.mapM (·.run env))

theorem union_eq_ok_iff : Query.union (first :: rest) = .ok q ↔
    (∀ o ∈ first :: rest, o.layout.isCompatibleWith first.layout) ∧ q = ⟨first.layout, fun env => do
      let parts ← (first :: rest).mapM (Query.relaidRows first.layout env)
      Query.layRows first.layout parts.flatten⟩ := by
  rw [← incompatibleOperand?_eq_none]
  unfold Query.union
  dsimp only
  split
  · rename_i place found
    simp [found]
  · rename_i none
    simp [none, eq_comm]

theorem union_run (made : Query.union (first :: rest) = .ok q)
    (bound : ∀ o ∈ first :: rest, o.BoundIn env) :
    q.run env = stackedRun first.layout (first :: rest) env := by
  obtain ⟨same, rfl⟩ := union_eq_ok_iff.mp made
  have parts := mapM_map_results fun o member => relaidRows_eq (bound o member) (same o member)
  unfold stackedRun
  dsimp only
  rw [parts]
  cases (first :: rest).mapM (·.run env) with
  | error e => rfl
  | ok ds =>
    have rows : (ds.map fun d => d.rows.map (Row.key first.layout.names)).flatten =
        (ds.flatMap Dataset.rows).map (Row.key first.layout.names) := by
      rw [List.map_flatMap, List.flatMap_def]
    exact (congrArg (Query.layRows first.layout) rows).trans (layRows_arranged first.layout _)

/-! ### Operands that are unions -/

variable {like : Likeness} {qs leaves : List Query} {p : Option Position}

/-- Queries that give the rows of the leaves, in whatever order of the columns both are stacked. -/
structure Flattens (like : Likeness) (qs leaves : List Query) : Prop where
  first : qs.head?.map Query.layout = leaves.head?.map Query.layout
  compatible (s : Structure) :
    (∀ q ∈ qs, q.layout.isCompatibleWith s) ↔ ∀ l ∈ leaves, l.layout.isCompatibleWith s
  bound {env : Env} : (∀ l ∈ leaves, l.BoundIn env) → ∀ q ∈ qs, q.BoundIn env
  rows {env : Env} {s : Structure} : (∀ l ∈ leaves, l.BoundIn env) →
    (∀ q ∈ qs, q.layout.isCompatibleWith s) →
      Agree like (fun ds es => Dataset.stacked s ds = Dataset.stacked s es) (qs.mapM (·.run env))
        (leaves.mapM (·.run env))

theorem Flattens.refl (reflexive : like.Reflexive) (qs : List Query) : Flattens like qs qs where
  first := rfl
  compatible _ := Iff.rfl
  bound bound := bound
  rows {env s} _ _ := by
    cases resolved : qs.mapM (·.run env) with
    | error e => exact reflexive.errors e
    | ok ds => exact rfl

theorem Flattens.append {qs' leaves' : List Query} (h : Flattens like qs leaves)
    (h' : Flattens like qs' leaves') : Flattens like (qs ++ qs') (leaves ++ leaves') where
  first := by
    have first := h.first
    have later := h'.first
    cases qs <;> cases leaves <;> simp_all
  compatible s := by
    rw [List.forall_mem_append, List.forall_mem_append, h.compatible, h'.compatible]
  bound bound := by
    obtain ⟨first, later⟩ := List.forall_mem_append.mp bound
    exact List.forall_mem_append.mpr ⟨h.bound first, h'.bound later⟩
  rows bound same := by
    obtain ⟨firstBound, laterBound⟩ := List.forall_mem_append.mp bound
    obtain ⟨firstSame, laterSame⟩ := List.forall_mem_append.mp same
    rw [List.mapM_append, List.mapM_append]
    refine (h.rows firstBound firstSame).bind fun ds es first => ?_
    exact (h'.rows laterBound laterSame).bind fun ds' es' later => stacked_append first later

theorem Flattens.eq_nil_iff (h : Flattens like qs leaves) : qs = [] ↔ leaves = [] := by
  have first := h.first
  cases qs <;> cases leaves <;> simp_all

/-- A union is built of the leaves exactly if it is of what they are put together to. -/
theorem Flattens.exists_union_iff (h : Flattens like qs leaves) :
    (∃ q, Query.union qs = .ok q) ↔ ∃ q, Query.union leaves = .ok q := by
  have first := h.first
  cases qs with
  | nil => rw [h.eq_nil_iff.mp rfl]
  | cons q qs =>
    cases leaves with
    | nil => cases first
    | cons l leaves =>
      have layout : q.layout = l.layout := Option.some.inj first
      simp only [union_eq_ok_iff, exists_and_left, exists_eq, and_true]
      rw [h.compatible, layout]

theorem Flattens.union_agree {flat : Query} (h : Flattens like qs leaves)
    (made : Query.union qs = .ok q) (madeFlat : Query.union leaves = .ok flat) :
    q.layout = flat.layout ∧ ∀ env, (∀ l ∈ leaves, l.BoundIn env) →
      Agree like Eq (q.run env) (flat.run env) := by
  have first := h.first
  cases qs with
  | nil => cases made
  | cons o qs =>
    cases leaves with
    | nil => cases first
    | cons l leaves =>
      have layout : o.layout = l.layout := Option.some.inj first
      have onFirst := (union_eq_ok_iff.mp made).1
      have own : q.layout = o.layout := by rw [(union_eq_ok_iff.mp made).2]
      have ownFlat : flat.layout = l.layout := by rw [(union_eq_ok_iff.mp madeFlat).2]
      refine ⟨by rw [own, ownFlat, layout], fun env bound => ?_⟩
      rw [union_run made (h.bound bound), union_run madeFlat bound, ← layout]
      exact (h.rows bound onFirst).bind fun ds es same => same

/-- A union puts together what its operands do. -/
theorem Flattens.union (h : Flattens like qs leaves) (made : Query.union qs = .ok q) :
    Flattens like [q] leaves := by
  obtain ⟨o, rest, rfl⟩ : ∃ o rest, qs = o :: rest := by
    cases qs with
    | nil => cases made
    | cons o rest => exact ⟨o, rest, rfl⟩
  obtain ⟨onFirst, same⟩ := union_eq_ok_iff.mp made
  have own : q.layout = o.layout := by rw [same]
  refine ⟨?_, fun s => ?_, fun _ => ?_, fun {env s} bound compatible => ?_⟩
  · rw [← h.first]
    exact congrArg some own
  · rw [← h.compatible, List.forall_mem_singleton, own]
    constructor
    · intro onS o' member
      exact Structure.isCompatibleWith_trans (onFirst o' member) onS
    · intro onS
      exact onS o List.mem_cons_self
  · exact List.forall_mem_singleton.mpr ((Query.union_laysRows made).boundIn _)
  · have onS : o.layout.isCompatibleWith s := by
      rw [← own]
      exact compatible q List.mem_cons_self
    have operands : ∀ o' ∈ o :: rest, o'.layout.isCompatibleWith s := fun o' member =>
      Structure.isCompatibleWith_trans (onFirst o' member) onS
    have agree := h.rows bound operands
    have alone : [q].mapM (·.run env) =
        (o :: rest).mapM (·.run env) >>= fun ds => .ok [Dataset.stacked o.layout ds] := by
      rw [List.mapM_cons, union_run made (h.bound bound)]
      unfold stackedRun
      cases (o :: rest).mapM (·.run env) <;> rfl
    rw [alone, ← bind_pure (leaves.mapM (·.run env))]
    exact agree.bind fun ds es stacked => (stacked_stacked onS).trans stacked

theorem Flattens.locate (h : Flattens .cause [q] leaves) : Flattens .cause [q.locate p] leaves where
  first := h.first
  compatible s := by
    have inner := h.compatible s
    rw [List.forall_mem_singleton] at inner ⊢
    exact inner
  bound bound := by
    have inner := List.forall_mem_singleton.mp (h.bound bound)
    refine List.forall_mem_singleton.mpr fun d run => ?_
    exact inner d (locate_eq_ok_iff.mp run)
  rows {env s} bound same := by
    have onQuery : ∀ o ∈ [q], o.layout.isCompatibleWith s := by
      rw [List.forall_mem_singleton] at same ⊢
      exact same
    have agree := h.rows bound onQuery
    have placed : [q.locate p].mapM (·.run env) = DatasetScript.locate p ([q].mapM (·.run env)) := by
      rw [List.mapM_cons, List.mapM_cons]
      change (DatasetScript.locate p (q.run env) >>= _) = _
      cases q.run env <;> rfl
    rw [placed, ← locate_none (leaves.mapM (·.run env))]
    exact agree.locate trivial

end

/-! ### Nested unions -/

mutual

/-- The operands of nested unions, from the first to the last. -/
def Node.unionLeaves : Node → List Node
  | ⟨.call .set function args, position⟩ =>
    if function = "union" then unionLeavesOf args else [⟨.call .set function args, position⟩]
  | node => [node]

def unionLeavesOf : List Node → List Node
  | [] => []
  | node :: rest => node.unionLeaves ++ unionLeavesOf rest

end

section

variable {scope : Scope} {q : Query} {qs leaves : List Query}

theorem checkArguments_of_compatible {first : Operand} {s : Structure}
    {args : List (Operand × Query)} (same : ∀ arg ∈ args, arg.2.layout.isCompatibleWith s) :
    Checking.checkArguments first s args = .ok () := by
  induction args with
  | nil => rfl
  | cons arg rest ih =>
    obtain ⟨onFirst, later⟩ := List.forall_mem_cons.mp same
    rw [Checking.checkArguments, if_pos onFirst, ih later]

/-- A call makes the union of its arguments, each of which must be a dataset. -/
theorem unionCall_eq_ok_iff {args : List Operand} :
    Checking.unionCall args = .ok (.query q) ↔
      ∃ qs, args.mapM Operand.query = .ok qs ∧ Query.union qs = .ok q := by
  cases args with
  | nil =>
    constructor
    · nofun
    · rintro ⟨qs, none, made⟩
      rw [pure_ok none] at made
      cases made
  | cons first rest =>
    unfold Checking.unionCall
    dsimp only
    rw [List.mapM_cons]
    constructor
    · intro h
      obtain ⟨o, onFirst, h⟩ := bind_ok h
      obtain ⟨others, onOthers, h⟩ := bind_ok h
      obtain ⟨_, -, h⟩ := bind_ok h
      obtain ⟨q', made, h⟩ := bind_ok h
      cases pure_ok h
      refine ⟨o :: others, ?_, made⟩
      rw [onFirst, ok_bind, onOthers]
      rfl
    · rintro ⟨qs, checked, made⟩
      obtain ⟨o, onFirst, checked⟩ := bind_ok checked
      obtain ⟨others, onOthers, checked⟩ := bind_ok checked
      obtain rfl := pure_ok checked
      have same := (union_eq_ok_iff.mp made).1
      have arguments : Checking.checkArguments first o.layout (rest.zip others) = .ok () := by
        refine checkArguments_of_compatible fun arg member => same _ ?_
        exact List.mem_cons_of_mem o (List.of_mem_zip member).2
      rw [onFirst, ok_bind, onOthers, ok_bind, arguments, ok_bind, made]
      rfl

variable [PatternLanguage]

/-- What the nodes stand for, datasets as they must be. -/
def queriesOf (scope : Scope) (nodes : List Node) : Except Error (List Query) :=
  (checkArguments scope nodes).mapM Operand.query

theorem checkArguments_eq_map (scope : Scope) (nodes : List Node) :
    checkArguments scope nodes = nodes.map fun node => ⟨node, node.check scope⟩ := by
  induction nodes with
  | nil => rfl
  | cons node rest ih => rw [checkArguments, ih, List.map_cons]

theorem queriesOf_append {nodes others : List Node} {later : List Query}
    (first : queriesOf scope nodes = .ok qs) (second : queriesOf scope others = .ok later) :
    queriesOf scope (nodes ++ others) = .ok (qs ++ later) := by
  unfold queriesOf at first second ⊢
  rw [checkArguments_eq_map] at first second ⊢
  rw [List.map_append, List.mapM_append, first, second]
  rfl

mutual

theorem Node.flattens : (node : Node) → ∀ {q : Query}, node.check scope = .ok (.query q) →
    ∃ leaves, queriesOf scope node.unionLeaves = .ok leaves ∧ Flattens .cause [q] leaves
  | ⟨form, p⟩, q, checked => by
    have query : Operand.query ⟨⟨form, p⟩, Node.check scope ⟨form, p⟩⟩ = .ok q := by
      rw [Operand.query, checked]
      rfl
    have alone : ∃ leaves, queriesOf scope [⟨form, p⟩] = .ok leaves ∧ Flattens .cause [q] leaves :=
      ⟨[q], mapM_of_forall₂ (.cons query .nil), .refl Likeness.cause_reflexive [q]⟩
    match form with
    | .call .set function args =>
      unfold Node.unionLeaves
      split
      · obtain ⟨inner, formChecked, rfl⟩ := check_query checked
        have call : Checking.call .set function (checkArguments scope args) = .ok (.query inner) := formChecked
        obtain ⟨qs, arguments, made⟩ := unionCall_eq_ok_iff.mp (Checking.call_query call)
        obtain ⟨leaves, leavesChecked, flattens⟩ := unionLeavesOf_flattens args arguments
        exact ⟨leaves, leavesChecked, (flattens.union made).locate⟩
      · exact alone
    | .call .string .. | .call .numeric .. | .call .comparison .. | .call .distance .. => exact alone
    | .literal _ | .name _ | .binary .. | .unary .. | .parenthesis _ | .membership .. => exact alone
    | .conditional .. | .join .. | .clause .. => exact alone

theorem unionLeavesOf_flattens : (args : List Node) → ∀ {qs : List Query},
    queriesOf scope args = .ok qs →
      ∃ leaves, queriesOf scope (unionLeavesOf args) = .ok leaves ∧ Flattens .cause qs leaves
  | [], qs, checked => by
    obtain rfl := pure_ok checked
    exact ⟨[], rfl, .refl Likeness.cause_reflexive []⟩
  | node :: rest, qs, checked => by
    unfold queriesOf checkArguments at checked
    obtain ⟨q, others, first, later, rfl⟩ := mapM_cons_ok checked
    obtain ⟨leaves, firstChecked, onFirst⟩ := node.flattens (query_operand first)
    obtain ⟨more, laterChecked, onLater⟩ := unionLeavesOf_flattens rest later
    exact ⟨leaves ++ more, queriesOf_append firstChecked laterChecked, onFirst.append onLater⟩

end

/-- Nested unions may be made at once of their leaves. -/
theorem union_of_leaves {args : List Node} {position : Option Position}
    (checked : Node.check scope ⟨.call .set "union" args, position⟩ = .ok (.query q)) :
    ∃ flat, Node.check scope ⟨.call .set "union" (unionLeavesOf args), position⟩ = .ok (.query flat) ∧
      flat.layout = q.layout ∧ ∀ env,
        (∀ leaf ∈ unionLeavesOf args, ∀ l, leaf.check scope = .ok (.query l) → l.BoundIn env) →
          Agree .cause Eq (q.run env) (flat.run env) := by
  obtain ⟨inner, formChecked, rfl⟩ := check_query checked
  obtain ⟨qs, arguments, made⟩ := unionCall_eq_ok_iff.mp formChecked
  obtain ⟨leaves, leavesChecked, flattens⟩ := unionLeavesOf_flattens args arguments
  obtain ⟨flat, madeFlat⟩ := flattens.exists_union_iff.mp ⟨inner, made⟩
  have call : (Form.call .set "union" (unionLeavesOf args)).check scope = .ok (.query flat) :=
    unionCall_eq_ok_iff.mpr ⟨leaves, leavesChecked, madeFlat⟩
  obtain ⟨layout, runs⟩ := flattens.union_agree made madeFlat
  refine ⟨flat.locate position, check_of_form _ position call, layout.symm, fun env bound => ?_⟩
  refine (runs env fun l member => ?_).locate trivial
  obtain ⟨o, argument, query⟩ := mapM_member leavesChecked member
  rw [checkArguments_eq_map] at argument
  obtain ⟨leaf, here, rfl⟩ := List.mem_map.mp argument
  exact bound leaf here l (query_operand query)

end

/-! ### Unions of datasets in any column order -/

/-- A union is built exactly if all operands have the columns of the first. It has the columns of the
first operand and, read by name, the rows of all operands in order; the first operand that fails to
resolve decides the error. An operand that is a union may give way to its own operands, and a call with
unions in its arguments, to whatever depth, to a call with their leaves. -/
theorem union_stacks [PatternLanguage] :
    (∀ first rest, (∃ q, Query.union (first :: rest) = .ok q) ↔
      ∀ o ∈ rest, ∀ c, c ∈ o.layout.components ↔ c ∈ first.layout.components) ∧
    (∀ first rest q env, Query.union (first :: rest) = .ok q →
      (∀ o ∈ first :: rest, o.BoundIn env) → q.layout = first.layout ∧
        (∀ e, (first :: rest).mapM (·.run env) = .error e → q.run env = .error e) ∧
        ∀ ds, (first :: rest).mapM (·.run env) = .ok ds →
          ∃ d, q.run env = .ok d ∧ d.layout = first.layout ∧ d.Tabular ∧
            List.Forall₂ (fun r given => r.get? = given.get?) d.rows (ds.flatMap Dataset.rows)) ∧
    (∀ before operands after inner, Query.union operands = .ok inner →
      ((∃ q, Query.union (before ++ inner :: after) = .ok q) ↔
        ∃ q, Query.union (before ++ (operands ++ after)) = .ok q) ∧
      ∀ q flat, Query.union (before ++ inner :: after) = .ok q →
        Query.union (before ++ (operands ++ after)) = .ok flat → q.layout = flat.layout ∧
          ∀ env, (∀ o ∈ before ++ (operands ++ after), o.BoundIn env) → q.run env = flat.run env) ∧
    ∀ scope args position q,
      Node.check scope ⟨.call .set "union" args, position⟩ = .ok (.query q) →
        ∃ flat,
          Node.check scope ⟨.call .set "union" (unionLeavesOf args), position⟩ = .ok (.query flat) ∧
          flat.layout = q.layout ∧ ∀ env,
            (∀ leaf ∈ unionLeavesOf args, ∀ l, leaf.check scope = .ok (.query l) → l.BoundIn env) →
              (∃ d, q.run env = .ok d ∧ flat.run env = .ok d) ∨
                ∃ e e', q.run env = .error e ∧ flat.run env = .error e' ∧ e.cause = e'.cause := by
  refine ⟨fun first rest => ?_, fun first rest q env made bound => ?_,
    fun before operands after inner made => ?_, fun scope args position q checked => ?_⟩
  · simp only [union_eq_ok_iff, exists_and_left, exists_eq, and_true, List.forall_mem_cons,
      Structure.isCompatibleWith_refl, true_and]
    simp only [Structure.isCompatibleWith_iff_mem]
  · obtain ⟨same, own⟩ := union_eq_ok_iff.mp made
    have run := union_run made bound
    unfold stackedRun at run
    refine ⟨by rw [own], fun e failed => ?_, fun ds resolved => ?_⟩
    · rw [run, failed]
      rfl
    · refine ⟨Dataset.stacked first.layout ds, by rw [run, resolved]; rfl, rfl,
        stacked_tabular first.layout ds, stacked_cells ?_ ?_⟩
      · intro d member
        obtain ⟨o, operand, given⟩ := mapM_member resolved member
        exact (bound o operand d given).2
      · intro d member
        obtain ⟨o, operand, given⟩ := mapM_member resolved member
        rw [(bound o operand d given).1]
        exact same o operand
  · have reflexive := Likeness.exact_reflexive
    have middle := (Flattens.refl reflexive operands).union made
    have flattens := (Flattens.refl reflexive before).append (middle.append (.refl reflexive after))
    refine ⟨flattens.exists_union_iff, fun q flat nested leaves => ?_⟩
    obtain ⟨layout, runs⟩ := flattens.union_agree nested leaves
    exact ⟨layout, fun env bound => (runs env bound).eq⟩
  · obtain ⟨flat, flatChecked, layout, runs⟩ := union_of_leaves checked
    refine ⟨flat, flatChecked, layout, fun env bound => ?_⟩
    obtain ⟨e, e', failed, failed', cause⟩ | ⟨d, d', run, run', rfl⟩ := (runs env bound).alike
    · exact .inr ⟨e, e', failed, failed', cause⟩
    · exact .inl ⟨d, run, run'⟩

namespace Branches

def emptyPair : Query := .constant ⟨pair, []⟩

def swappedQuery : Query := .constant ⟨swapped, [swappedRow]⟩

/-- The operands of `union(a, union(b, a))`. -/
def nestedOperands : List Node := [first, ⟨.call .set "union" [second, first], none⟩]

theorem empty_bound (env : Env) : emptyPair.BoundIn env := by
  intro d run
  cases run
  exact ⟨rfl, nofun⟩

theorem swapped_bound (env : Env) : swappedQuery.BoundIn env := by
  intro d run
  cases run
  exact ⟨rfl, Dataset.tabular_singleton rfl⟩

theorem leaves_bound : ∀ leaf ∈ [first, second, first], ∀ l,
    leaf.check swappedBindings.scope = .ok (.query l) → l.BoundIn swappedBindings.env := by
  have onFirst : ∀ l, first.check swappedBindings.scope = .ok (.query l) →
      l.BoundIn swappedBindings.env := by
    rintro l ⟨⟩
    exact empty_bound swappedBindings.env
  have onSecond : ∀ l, second.check swappedBindings.scope = .ok (.query l) →
      l.BoundIn swappedBindings.env := by
    rintro l ⟨⟩
    exact swapped_bound swappedBindings.env
  simp only [List.forall_mem_cons]
  exact ⟨onFirst, onSecond, onFirst, nofun⟩

end Branches

open Branches in
theorem swapped_rows_stacked :
    (∃ q d, Query.union [emptyPair, swappedQuery] = .ok q ∧ q.run (fun _ => none) = .ok d ∧
      d.layout = pair ∧ List.Forall₂ (fun r given => r.get? = given.get?) d.rows [swappedRow]) ∧
    (∃ inner q flat, Query.union [emptyPair, swappedQuery] = .ok inner ∧
      Query.union [inner] = .ok q ∧ Query.union [emptyPair, swappedQuery] = .ok flat ∧
      q.run (fun _ => none) = flat.run (fun _ => none)) ∧
    ∃ q flat d,
      Node.check swappedBindings.scope ⟨.call .set "union" nestedOperands, none⟩ = .ok (.query q) ∧
      Node.check swappedBindings.scope ⟨.call .set "union" [first, second, first], none⟩ =
        .ok (.query flat) ∧
      q.run swappedBindings.env = .ok d ∧ flat.run swappedBindings.env = .ok d := by
  obtain ⟨built, puts, flattens, leaves⟩ := union_stacks
  have same : swapped.isCompatibleWith pair := by decide
  have bound : ∀ o ∈ [emptyPair, swappedQuery], o.BoundIn fun _ => none := by
    simp [empty_bound, swapped_bound]
  obtain ⟨q, made⟩ := (built emptyPair [swappedQuery]).mpr
    (List.forall_mem_singleton.mpr (Structure.isCompatibleWith_iff_mem.mp same))
  refine ⟨?_, ?_, ?_⟩
  · obtain ⟨-, -, resolved⟩ := puts _ _ q (fun _ => none) made bound
    obtain ⟨d, run, layout, -, rows⟩ := resolved _ rfl
    exact ⟨q, d, made, run, layout, rows⟩
  · obtain ⟨builds, runs⟩ := flattens [] [emptyPair, swappedQuery] [] q made
    obtain ⟨outer, madeOuter⟩ := builds.mpr ⟨q, made⟩
    exact ⟨q, outer, q, made, madeOuter, made, (runs outer q madeOuter made).2 _ bound⟩
  · obtain ⟨flat, checked, -, runs⟩ := leaves swappedBindings.scope nestedOperands none _ rfl
    obtain ⟨d, run, runFlat⟩ | ⟨e, -, failed, -⟩ := runs swappedBindings.env leaves_bound
    · exact ⟨_, flat, d, rfl, checked, run, runFlat⟩
    · cases failed

end DatasetScript
