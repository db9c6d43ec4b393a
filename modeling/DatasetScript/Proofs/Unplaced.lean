import DatasetScript.Checking.Node
import DatasetScript.Proofs.Outcome
/-!
# Errors without a position

Only nodes have positions, so what works on values, rows and structures fails without one, and the
node around it attaches its own. Nor do the plans of joins fail for the names of their datasets. Main
statements: `Unplaced.bind`, and a statement for each function that knows of no node, down to
`Nodeless.ofOperands` on the plans of joins.
-/

namespace DatasetScript

variable {α β : Type}

/-- What went wrong, if anything did, has no position yet. -/
def Unplaced (x : Except Error α) : Prop := ∀ e, x = .error e → e.position = none

@[simp] theorem unplaced_ok (a : α) : Unplaced (.ok a : Except Error α) := by
  rintro _ ⟨⟩

@[simp] theorem unplaced_pure (a : α) : Unplaced (pure a : Except Error α) := unplaced_ok a

@[simp] theorem unplaced_error {e : Error} :
    Unplaced (.error e : Except Error α) ↔ e.position = none :=
  ⟨fun h => h e rfl, fun h _ made => by cases made; exact h⟩

/-! ### Structures -/

/-- Neither the position nor the name of a node is part of the error. -/
structure Error.IsNodeless (e : Error) : Prop where
  position : e.position = none
  cause : ∀ name, e.cause ≠ .structureMismatch (.aliasTwice name)

/-- What went wrong, if anything did, has nothing to do with nodes. -/
def Nodeless (x : Except Error α) : Prop := FailsWith Error.IsNodeless x

namespace Nodeless

variable {x : Except Error α}

theorem unplaced (h : Nodeless x) : Unplaced x := fun e failed => (h e failed).position

theorem unknownColumn (name : String) :
    Nodeless (.error (.unknownColumn name) : Except Error α) :=
  .error ⟨rfl, nofun⟩

theorem structureMismatch {fault : StructureFault} (other : ∀ name, fault ≠ .aliasTwice name) :
    Nodeless (.error (.structureMismatch fault) : Except Error α) :=
  .error ⟨rfl, fun name same => other name (Cause.structureMismatch.inj same)⟩

theorem ofComponents (components : List Component) :
    Nodeless (Structure.ofComponents components) := by
  unfold Structure.ofComponents
  split
  · exact .ok _
  · exact structureMismatch nofun

theorem column (s : Structure) (name : String) : Nodeless (s.column name) := by
  unfold Structure.column
  split
  · exact .ok _
  · exact unknownColumn name

theorem place (s : Structure) (name : String) : Nodeless (s.place name) := by
  unfold Structure.place
  split
  · exact .ok _
  · exact unknownColumn name

/-! ### Joins -/

theorem keyComponents (kind : JoinKind) (layouts : List Structure) (keys : List String) :
    Nodeless (Checking.keyComponents kind layouts keys) := by
  unfold Checking.keyComponents
  split
  · exact .ok _
  · exact .ok _
  · exact .mapM (column _) keys
  · exact .ok _

theorem checkKey (label : String) (layout : Structure) (key : Component) :
    Nodeless (JoinPlan.checkKey label layout key) := by
  unfold JoinPlan.checkKey
  split
  · exact unknownColumn _
  · split
    · exact .ok _
    · exact structureMismatch nofun

theorem appendColumns (kind : JoinKind) (keyNames : List String) (label : String)
    (columns joined : List Component) :
    Nodeless (JoinPlan.appendColumns kind keyNames label joined columns) := by
  induction columns generalizing joined with
  | nil => exact .ok joined
  | cons c rest ih =>
    unfold JoinPlan.appendColumns
    split
    · exact ih _
    · split
      · split
        · exact ih _
        · exact structureMismatch nofun
      · exact ih _

theorem planSteps (kind : JoinKind) (keyNames : List String) (operands : List (String × Structure))
    (joined : Structure) : Nodeless (JoinPlan.planSteps kind keyNames joined operands) := by
  induction operands generalizing joined with
  | nil => exact .ok _
  | cons operand rest ih =>
    unfold JoinPlan.planSteps
    refine (appendColumns kind keyNames operand.1 _ _).bind fun components => ?_
    refine (FailsWith.mapM (place joined) keyNames).bind fun leftKeys => ?_
    refine (FailsWith.mapM (place operand.2) keyNames).bind fun rightKeys => ?_
    exact (ofComponents components).bind fun next => (ih next).bind fun _ => .pure _

theorem ofOperands (kind : JoinKind) (operands : List (String × Structure))
    (keys : List Component) : Nodeless (JoinPlan.ofOperands kind operands keys) := by
  unfold JoinPlan.ofOperands
  split
  · exact structureMismatch nofun
  · refine (FailsWith.forM (fun operand => ?_) _).bind fun _ =>
      (planSteps kind _ _ _).bind fun _ => .pure _
    exact FailsWith.forM (checkKey operand.1 operand.2) _

end Nodeless

namespace Unplaced

variable {x : Except Error α}

theorem bind {f : α → Except Error β} (first : Unplaced x) (later : ∀ a, Unplaced (f a)) :
    Unplaced (x >>= f) :=
  FailsWith.bind first later

theorem mapM {f : α → Except Error β} (each : ∀ a, Unplaced (f a)) (xs : List α) :
    Unplaced (xs.mapM f) :=
  FailsWith.mapM each xs

theorem ofComponents (components : List Component) :
    Unplaced (Structure.ofComponents components) :=
  (Nodeless.ofComponents components).unplaced

theorem column (s : Structure) (name : String) : Unplaced (s.column name) :=
  (Nodeless.column s name).unplaced

theorem place (s : Structure) (name : String) : Unplaced (s.place name) :=
  (Nodeless.place s name).unplaced

/-! ### Values and rows -/

theorem cast (t : DataType) (v : Value) : Unplaced (v.cast t) := by
  unfold Value.cast
  split
  · simp
  · split
    · simp
    · split <;> simp

theorem payload (t : ScalarType) (v : Value) : Unplaced (t.payload v) := by
  unfold ScalarType.payload
  split <;> simp

theorem ofCells (layout : Structure) (rows : List (List Value)) :
    Unplaced (Dataset.ofCells layout rows) := by
  refine (mapM (fun cells => ?_) rows).bind fun _ => unplaced_pure _
  unfold Row.ofCells
  split <;> simp

theorem setAll (entries : List (String × Value)) (r : Row) : Unplaced (r.setAll entries) := by
  induction entries generalizing r with
  | nil => exact unplaced_ok r
  | cons entry rest ih =>
    unfold Row.setAll
    exact ((place r.layout entry.1).bind fun _ => unplaced_pure _).bind fun next => ih next

theorem conform (declared : Structure) (name : String) (d : Dataset) :
    Unplaced (d.conform declared name) := by
  unfold Dataset.conform
  split
  · simp
  · split
    · simp
    · exact (mapM (fun entries => setAll entries _) _).bind fun _ => unplaced_pure _

/-! ### Variables and arguments -/

theorem boundValue (name : String) (env : Env) : Unplaced (Checking.boundValue name env) := by
  unfold Checking.boundValue
  split <;> simp

theorem boundDataset (name : String) (declared : Structure) (env : Env) :
    Unplaced (Checking.boundDataset name declared env) := by
  unfold Checking.boundDataset
  split
  · exact conform declared name _
  all_goals simp

theorem cut (s : String) (start length : Int64) : Unplaced (Checking.cut s start length) := by
  unfold Checking.cut
  split <;> simp

theorem locateText (s pattern : String) (start occurrence : Int64) :
    Unplaced (Checking.locateText s pattern start occurrence) := by
  unfold Checking.locateText
  split <;> simp

theorem readPattern [PatternLanguage] (extend : String → String) (text : String) :
    Unplaced (Checking.readPattern extend text) := by
  unfold Checking.readPattern
  split <;> simp

/-! ### Clauses -/

theorem checkRenames (layout : Structure) (all renames : List (String × String)) :
    Unplaced (Query.checkRenames layout all renames) := by
  induction renames with
  | nil => exact unplaced_ok ()
  | cons item rest ih =>
    unfold Query.checkRenames
    split
    · simp
    · split
      · simp
      · exact ih

end Unplaced

end DatasetScript
