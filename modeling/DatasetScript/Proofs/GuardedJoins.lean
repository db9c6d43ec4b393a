import DatasetScript.Proofs.JoinColumns
/-!
# Joins under guards

A join step that keeps a flag for every row of the next dataset and builds a row cell by cell, where
each access to a flag or a cell is guarded. A guard that fails gives an error of its own. Main
statement: `guardedJoin_eq`, by which no guard of a planned join ever fails.
-/

namespace DatasetScript

/-! ### Guarded accesses -/

section

variable (fault : Error) {α : Type}

/-- Overwrites an item, which must be there. -/
def writeAt (items : List α) (place : Nat) (a : α) : Except Error (List α) :=
  if place < items.length then .ok (items.set place a) else .error fault

/-- Reads an item, which must be there. -/
def readAt (items : List α) (place : Nat) : Except Error α :=
  match items[place]? with
  | some a => .ok a
  | none => .error fault

end

namespace JoinPlan

/-! ### The guarded join -/

/-- The places of the rows of the next dataset that match a row joined so far. -/
def partnersOf (step : JoinStep) (right : List (List Value)) (l : List Value) : List Nat :=
  (List.range right.length).filter fun i => matchesRow step l (right[i]?.getD [])

section

variable (fault : Error) (kind : JoinKind) (step : JoinStep) (right : List (List Value))

/-- Joins a row and raises the flags of its partners. -/
def guardedLeft (flags : List Bool) (l : List Value) :
    Except Error (List Bool × List (List Value)) :=
  match partnersOf step right l with
  | [] =>
    .ok (flags, if kind = .inner then [] else [l ++ List.replicate step.appended.length .null])
  | partners => do
    let flags ← partners.foldlM (writeAt fault · · true) flags
    return (flags, partners.map fun i => combine step l (right[i]?.getD []))

def guardedLefts (flags : List Bool) :
    List (List Value) → Except Error (List Bool × List (List Value))
  | [] => .ok (flags, [])
  | l :: rest => do
    let (flags, rows) ← guardedLeft fault kind step right flags l
    let (flags, others) ← guardedLefts flags rest
    return (flags, rows ++ others)

/-- The row that stands for the rows joined so far, written key by key. -/
def guardedLeftOf (r : List Value) : Except Error (List Value) :=
  (step.leftKeys.zip step.rightKeys).foldlM
    (fun cells (left, right) => writeAt fault cells left (r[right]?.getD .null))
    (List.replicate step.leftWidth .null)

/-- The rows of the next dataset whose flags are down. -/
def guardedUnmatched (flags : List Bool) :
    List (List Value × Nat) → Except Error (List (List Value))
  | [] => .ok []
  | (r, place) :: rest => do
    let raised ← readAt fault flags place
    if raised then guardedUnmatched flags rest
    else
      let l ← guardedLeftOf fault step r
      return combine step l r :: (← guardedUnmatched flags rest)

def guardedStep (left : List (List Value)) : Except Error (List (List Value)) :=
  if kind = .cross then .ok (left.flatMap fun l => right.map (combine step l))
  else do
    let (flags, joined) ←
      guardedLefts fault kind step right (List.replicate right.length false) left
    if kind = .full then return joined ++ (← guardedUnmatched fault step flags right.zipIdx)
    else return joined

end

def guardedRows (fault : Error) (kind : JoinKind) (left : List (List Value)) :
    List (JoinStep × List (List Value)) → Except Error (List (List Value))
  | [] => .ok left
  | (step, right) :: rest => do
    guardedRows fault kind (← guardedStep fault kind step right left) rest

def guardedExecute (fault : Error) (plan : JoinPlan) :
    List (List (List Value)) → Except Error (List (List Value))
  | [] => .ok []
  | first :: rest => guardedRows fault plan.kind first (plan.steps.zip rest)

end JoinPlan

def Query.guardedJoin (fault : Error) (kind : JoinKind) (operands : List (String × Query))
    (keys : List Component) : Except Error Query := do
  let plan ← JoinPlan.ofOperands kind (operands.map fun (label, q) => (label, q.layout)) keys
  return ⟨plan.layout, fun env => do
    let inputs ← operands.mapM fun (_, q) => do
      return (← q.run env).rows.map Row.cells
    Query.layRows plan.layout (← plan.guardedExecute fault inputs)⟩

namespace JoinPlan

variable {fault : Error} {kind : JoinKind} {step : JoinStep} {right : List (List Value)}

/-! ### Flags -/

theorem rows_eq_range (right : List (List Value)) :
    right = (List.range right.length).map fun i => right[i]?.getD [] := by
  apply List.ext_getElem (by simp)
  intro i bound _
  simp [List.getElem?_eq_getElem bound]

theorem partnersOf_map (step : JoinStep) (right : List (List Value)) (l : List Value) :
    (partnersOf step right l).map (fun i => right[i]?.getD []) =
      right.filter (matchesRow step l) := by
  conv_rhs => rw [rows_eq_range right, List.filter_map]
  rfl

theorem mem_partnersOf {l : List Value} {i : Nat} :
    i ∈ partnersOf step right l ↔ ∃ r, right[i]? = some r ∧ matchesRow step l r := by
  unfold partnersOf
  rw [List.mem_filter, List.mem_range]
  constructor
  · rintro ⟨bound, here⟩
    refine ⟨right[i], List.getElem?_eq_getElem bound, ?_⟩
    simpa [List.getElem?_eq_getElem bound] using here
  · rintro ⟨r, here, same⟩
    exact ⟨(List.getElem?_eq_some_iff.mp here).1, by simpa [here] using same⟩

theorem raise_none (flags : List Bool) :
    flags.mapIdx (fun i flag => flag || decide (i ∈ ([] : List Nat))) = flags := by
  apply List.ext_getElem <;> simp

theorem raise_flags {places : List Nat} {flags : List Bool}
    (bound : ∀ i ∈ places, i < flags.length) :
    places.foldlM (writeAt fault · · true) flags =
      .ok (flags.mapIdx fun i flag => flag || decide (i ∈ places)) := by
  induction places generalizing flags with
  | nil =>
    rw [raise_none]
    rfl
  | cons place rest ih =>
    obtain ⟨here, later⟩ := List.forall_mem_cons.mp bound
    rw [List.foldlM_cons, show writeAt fault flags place true = .ok (flags.set place true) by
      simp [writeAt, here], ok_bind, ih (by simpa using later)]
    congr 1
    apply List.ext_getElem (by simp)
    intro i _ _
    by_cases same : place = i <;> simp [same, eq_comm]

/-- The flags after the rows of a list: a flag is up if one of them matches its row. -/
def flagsOf (step : JoinStep) (right left : List (List Value)) : List Bool :=
  right.map fun r => left.any (matchesRow step · r)

theorem flagsOf_append (step : JoinStep) (right before : List (List Value)) (l : List Value) :
    (flagsOf step right before).mapIdx
        (fun i flag => flag || decide (i ∈ partnersOf step right l)) =
      flagsOf step right (before ++ [l]) := by
  apply List.ext_getElem (by simp [flagsOf])
  intro i bound _
  have here : i < right.length := by simpa [flagsOf] using bound
  simp [flagsOf, mem_partnersOf, List.getElem?_eq_getElem here, Bool.decide_eq_true]

theorem guardedLeft_eq (before : List (List Value)) (l : List Value) :
    guardedLeft fault kind step right (flagsOf step right before) l =
      .ok (flagsOf step right (before ++ [l]), joinLeft kind step right l) := by
  unfold guardedLeft joinLeft
  rw [← partnersOf_map step right l, ← flagsOf_append step right before l]
  cases partners : partnersOf step right l with
  | nil =>
    rw [raise_none]
    rfl
  | cons place rest =>
    have bound : ∀ i ∈ place :: rest, i < (flagsOf step right before).length := by
      intro i member
      rw [← partners] at member
      obtain ⟨r, here, -⟩ := mem_partnersOf.mp member
      simpa [flagsOf] using (List.getElem?_eq_some_iff.mp here).1
    simp only [raise_flags bound, ok_bind]
    simp [pure, Except.pure]

theorem guardedLefts_eq (before left : List (List Value)) :
    guardedLefts fault kind step right (flagsOf step right before) left =
      .ok (flagsOf step right (before ++ left), left.flatMap (joinLeft kind step right)) := by
  induction left generalizing before with
  | nil => simp [guardedLefts]
  | cons l rest ih =>
    unfold guardedLefts
    rw [guardedLeft_eq, ok_bind]
    dsimp only
    rw [ih, ok_bind, List.append_assoc]
    rfl

/-! ### Rows written key by key -/

theorem write_cells {keys : List (Nat × Nat)} {cells r : List Value}
    (bound : ∀ key ∈ keys, key.1 < cells.length) :
    keys.foldlM (fun cells (left, right) => writeAt fault cells left (r[right]?.getD .null)) cells =
      .ok (keys.foldl (fun cells (left, right) => cells.set left (r[right]?.getD .null)) cells) := by
  induction keys generalizing cells with
  | nil => rfl
  | cons key rest ih =>
    obtain ⟨here, later⟩ := List.forall_mem_cons.mp bound
    rw [List.foldlM_cons, List.foldl_cons]
    simp only [writeAt, here, if_true, ok_bind]
    exact ih (by simpa using later)

/-- The key places of a step lie within the rows joined so far. -/
def KeysInside (step : JoinStep) : Prop := ∀ place ∈ step.leftKeys, place < step.leftWidth

theorem guardedLeftOf_eq (inside : KeysInside step) (r : List Value) :
    guardedLeftOf fault step r = .ok (leftOf step r) := by
  refine write_cells fun key member => ?_
  rw [List.length_replicate]
  exact inside key.1 (List.of_mem_zip member).1

theorem guardedUnmatched_eq (inside : KeysInside step) {flags : List Bool}
    (matched : List Value → Bool) {entries : List (List Value × Nat)}
    (raised : ∀ entry ∈ entries, flags[entry.2]? = some (matched entry.1)) :
    guardedUnmatched fault step flags entries =
      .ok (((entries.map Prod.fst).filter fun r => !matched r).map fun r =>
        combine step (leftOf step r) r) := by
  induction entries with
  | nil => rfl
  | cons entry rest ih =>
    obtain ⟨r, place⟩ := entry
    obtain ⟨here, later⟩ := List.forall_mem_cons.mp raised
    dsimp only at here
    unfold guardedUnmatched
    rw [show readAt fault flags place = .ok (matched r) by simp [readAt, here], ok_bind, ih later]
    cases up : matched r with
    | true => simp [up]
    | false => simp [up, guardedLeftOf_eq inside, pure, Except.pure]

/-! ### Guarded steps -/

theorem guardedStep_eq (inside : KeysInside step) (left : List (List Value)) :
    guardedStep fault kind step right left = .ok (joinStep kind step left right) := by
  unfold guardedStep joinStep
  split
  · rfl
  · have down : List.replicate right.length false = flagsOf step right [] := by
      simp [flagsOf, List.map_const']
    have raised : ∀ entry ∈ right.zipIdx,
        (flagsOf step right left)[entry.2]? = some (left.any (matchesRow step · entry.1)) := by
      rintro ⟨r, place⟩ member
      have here := List.mem_zipIdx_iff_getElem?.mp member
      dsimp only at here
      simp [flagsOf, here]
    rw [down, guardedLefts_eq, ok_bind]
    dsimp only [List.nil_append]
    split
    · rw [guardedUnmatched_eq inside (fun r => left.any (matchesRow step · r)) raised]
      simp [pure, Except.pure]
    · rfl

theorem guardedRows_eq {steps : List (JoinStep × List (List Value))}
    (inside : ∀ s ∈ steps, KeysInside s.1) (left : List (List Value)) :
    guardedRows fault kind left steps = .ok (joinRows kind left steps) := by
  induction steps generalizing left with
  | nil => rfl
  | cons s rest ih =>
    obtain ⟨here, later⟩ := List.forall_mem_cons.mp inside
    unfold guardedRows joinRows
    rw [guardedStep_eq here, ok_bind, ih later]

theorem guardedExecute_eq {plan : JoinPlan} (inside : ∀ s ∈ plan.steps, KeysInside s)
    (inputs : List (List (List Value))) :
    plan.guardedExecute fault inputs = .ok (plan.execute inputs) := by
  cases inputs with
  | nil => rfl
  | cons first rest =>
    exact guardedRows_eq (fun s member => inside s.1 (List.of_mem_zip member).1) first

/-! ### Planned steps -/

theorem planSteps_inside {names : List String} {operands : List (String × Structure)}
    {joined last : Structure} {steps : List JoinStep}
    (h : planSteps kind names joined operands = .ok (steps, last)) :
    ∀ s ∈ steps, KeysInside s := by
  induction operands generalizing joined steps with
  | nil =>
    cases h
    exact nofun
  | cons operand rest ih =>
    obtain ⟨next, step, later, -, planned, others, rfl⟩ := planSteps_cons h
    refine List.forall_mem_cons.mpr ⟨fun place member => ?_, ih others⟩
    obtain ⟨name, -, found⟩ := mapM_member planned.left member
    obtain ⟨c, here, -⟩ := Structure.indexOf?_eq_some_iff.mp (Structure.place_ok found)
    rw [planned.width]
    exact (List.getElem?_eq_some_iff.mp here).1

theorem ofOperands_inside {operands : List (String × Structure)} {keys : List Component}
    {plan : JoinPlan} (h : ofOperands kind operands keys = .ok plan) :
    ∀ s ∈ plan.steps, KeysInside s := by
  cases operands with
  | nil => cases h
  | cons operand rest => exact planSteps_inside (ofOperands_cons h).2.2

end JoinPlan

/-- A planned join goes through without a guard that fails. -/
theorem guardedJoin_eq (fault : Error) (kind : JoinKind) (operands : List (String × Query))
    (keys : List Component) :
    Query.guardedJoin fault kind operands keys = Query.join kind operands keys := by
  unfold Query.guardedJoin Query.join
  cases planned : JoinPlan.ofOperands kind (operands.map fun (label, q) => (label, q.layout)) keys with
  | error e => rfl
  | ok plan =>
    have inside := JoinPlan.ofOperands_inside planned
    simp only [ok_bind, JoinPlan.guardedExecute_eq inside]

end DatasetScript
