import DatasetScript.Relational.Rows
/-!
# Joins

A join of several named datasets goes from left to right. Each step matches the rows joined so far
with the rows of the next dataset by their key cells and appends its other columns. A plan fixes
the columns of every step before any row is read.
-/

namespace DatasetScript

structure JoinStep where
  /-- places of the keys in the rows joined so far -/
  leftKeys : List Nat
  /-- places of the keys in the next dataset -/
  rightKeys : List Nat
  /-- places of the columns of the next dataset that are appended -/
  appended : List Nat
  /-- the number of columns joined so far -/
  leftWidth : Nat

structure JoinPlan where
  kind : JoinKind
  steps : List JoinStep
  layout : Structure

namespace JoinPlan

/-! ### Planning -/

/-- Checks that a dataset has a key column with the expected type and role. -/
def checkKey (label : String) (layout : Structure) (key : Component) : Except Error Unit :=
  match layout.get? key.name with
  | none => .error (.unknownColumn (label ++ "#" ++ key.name))
  | some c =>
    if c = key then .ok ()
    else .error (.structureMismatch
      (.keyDiffers key.name label c.role c.type key.role key.type))

def checkKeysOf (keys : List Component) (label : String) (layout : Structure) :
    Except Error Unit :=
  keys.forM (checkKey label layout)

/-- Appends the columns of the next dataset that are not keys. In a cross join a column whose name
is taken is qualified by the alias of its dataset, elsewhere it is refused. -/
def appendColumns (kind : JoinKind) (keyNames : List String) (label : String)
    (joined : List Component) : List Component → Except Error (List Component)
  | [] => .ok joined
  | c :: rest =>
    if c.name ∈ keyNames then appendColumns kind keyNames label joined rest
    else if c.name ∈ joined.map Component.name then
      if kind = .cross then
        appendColumns kind keyNames label (joined ++ [c.rename (label ++ "#" ++ c.name)]) rest
      else .error (.structureMismatch (.columnTwice c.name label))
    else appendColumns kind keyNames label (joined ++ [c]) rest

/-- The places of the columns that are not keys. -/
def otherPlaces (keyNames : List String) (layout : Structure) : List Nat :=
  (List.range layout.size).filter fun i =>
    match layout.components[i]? with
    | some c => c.name ∉ keyNames
    | none => false

/-- The steps that follow on the columns joined so far, and the structure at the end. -/
def planSteps (kind : JoinKind) (keyNames : List String) (joined : Structure) :
    List (String × Structure) → Except Error (List JoinStep × Structure)
  | [] => .ok ([], joined)
  | (label, layout) :: rest => do
    let components ← appendColumns kind keyNames label joined.components layout.components
    let leftKeys ← keyNames.mapM joined.place
    let rightKeys ← keyNames.mapM layout.place
    let next ← Structure.ofComponents components
    let step : JoinStep := ⟨leftKeys, rightKeys, otherPlaces keyNames layout, joined.size⟩
    let (steps, last) ← planSteps kind keyNames next rest
    return (step :: steps, last)

/-- Plans a join of datasets by the given key columns, which cross joins have none of. -/
def ofOperands (kind : JoinKind) (operands : List (String × Structure)) (keys : List Component) :
    Except Error JoinPlan :=
  match operands with
  | [] => .error (.structureMismatch (.emptyJoin kind))
  | (_, first) :: rest => do
    let keys := if kind = .cross then [] else keys
    operands.forM fun (label, layout) => checkKeysOf keys label layout
    let (steps, layout) ← planSteps kind (keys.map Component.name) first rest
    return ⟨kind, steps, layout⟩

/-! ### Joining rows -/

def cellsAt (cells : List Value) (places : List Nat) : List Value :=
  places.map fun i => cells[i]?.getD .null

def combine (step : JoinStep) (left right : List Value) : List Value :=
  left ++ cellsAt right step.appended

/-- A row of the next dataset that nothing matches, standing for the rows joined so far: NULL
everywhere but in the key columns. -/
def leftOf (step : JoinStep) (right : List Value) : List Value :=
  (step.leftKeys.zip step.rightKeys).foldl
    (fun cells (l, r) => cells.set l (right[r]?.getD .null))
    (List.replicate step.leftWidth .null)

def matchesRow (step : JoinStep) (left right : List Value) : Bool :=
  sameKey (cellsAt right step.rightKeys) (cellsAt left step.leftKeys)

def joinLeft (kind : JoinKind) (step : JoinStep) (right : List (List Value)) (l : List Value) :
    List (List Value) :=
  match right.filter (matchesRow step l) with
  | [] => if kind = .inner then [] else [l ++ List.replicate step.appended.length .null]
  | partners => partners.map (combine step l)

def joinStep (kind : JoinKind) (step : JoinStep) (left right : List (List Value)) :
    List (List Value) :=
  if kind = .cross then left.flatMap fun l => right.map (combine step l)
  else
    let joined := left.flatMap (joinLeft kind step right)
    if kind = .full then
      let unmatched := right.filter fun r => !left.any (matchesRow step · r)
      joined ++ unmatched.map fun r => combine step (leftOf step r) r
    else joined

/-- Joins the rows of the first dataset with those of the others, step by step. -/
def joinRows (kind : JoinKind) (left : List (List Value)) :
    List (JoinStep × List (List Value)) → List (List Value)
  | [] => left
  | (step, right) :: rest => joinRows kind (joinStep kind step left right) rest

def execute (plan : JoinPlan) : List (List (List Value)) → List (List Value)
  | [] => []
  | first :: rest => joinRows plan.kind first (plan.steps.zip rest)

end JoinPlan

def Query.join (kind : JoinKind) (operands : List (String × Query)) (keys : List Component) :
    Except Error Query := do
  let plan ← JoinPlan.ofOperands kind (operands.map fun (label, q) => (label, q.layout)) keys
  return ⟨plan.layout, fun env => do
    let inputs ← operands.mapM fun (_, q) => do
      return (← q.run env).rows.map Row.cells
    Query.layRows plan.layout (plan.execute inputs)⟩

end DatasetScript
