import DatasetScript.Semantics.Operand
import DatasetScript.Semantics.Aggregation
import DatasetScript.Data.Key
/-!
# Operations on the rows of one dataset

Calculating, filtering, renaming and projecting. Each operation checks the structure of its input
when it is asked for and does the work on rows when the result is resolved. Columns that are
passed on are taken from a row by place, names in expressions are looked up in the row itself.
-/

namespace DatasetScript.Query

/-- A dataset whose rows are laid out by the given structure. -/
def layRows (layout : Structure) (rows : List (List Value)) : Except Error Dataset :=
  Dataset.ofCells layout rows

/-! ### Calculating columns -/

inductive Source where
  | place (i : Nat)
  | computed (e : Expr)

structure Column where
  component : Component
  source : Source

def Column.cell (c : Column) (r : Row) : Except Error Value :=
  match c.source with
  | .place i => .ok (r.cell i)
  | .computed e => do (← e.resolve r.env).cast c.component.type

/-- The columns of a structure, each taken from its place. -/
def ownColumns (s : Structure) : List Column :=
  s.components.mapIdx fun i c => ⟨c, .place i⟩

/-- Puts a calculated column in the place of the column of its name, or at the end. -/
def putColumn (roles : List (String × Role)) (columns : List Column) (name : String)
    (type : DataType) (e : Expr) : List Column :=
  match columns with
  | [] => [⟨⟨name, type, (Assoc.find? roles name).getD .measure⟩, .computed e⟩]
  | c :: rest =>
    if c.component.name = name then
      ⟨⟨name, type, (Assoc.find? roles name).getD c.component.role⟩, .computed e⟩ :: rest
    else c :: putColumn roles rest name type e

def putColumns (roles : List (String × Role)) (columns : List Column) :
    List (String × Expr) → Except Error (List Column)
  | [] => .ok columns
  | (name, e) :: rest =>
    match e.type? with
    | some (.scalar t) => putColumns roles (putColumn roles columns name (.scalar t) e) rest
    | t => .error (.typeMismatch .scalar (.type t) s!"calc {name}")

/-- Adds or replaces columns by expressions about each row. A replaced column keeps its place, and
its role unless another is given; a new one is a measure unless another role is given. -/
def calculate (input : Query) (items : List (String × Expr)) (roles : List (String × Role)) :
    Except Error Query := do
  let columns ← putColumns roles (ownColumns input.layout) items
  let layout ← Structure.ofComponents (columns.map Column.component)
  return ⟨layout, fun env => do
    let d ← input.run env
    let rows ← d.rows.mapM fun r => columns.mapM (·.cell r)
    layRows layout rows⟩

/-! ### Filtering -/

/-- The rows for which a predicate is true. -/
def keepRows (predicate : Formula .boolean) : List Row → Except Error (List Row)
  | [] => .ok []
  | r :: rest => do
    let keep ← predicate r.env
    let kept ← keepRows predicate rest
    return if keep = some true then r :: kept else kept

/-- Keeps the rows for which a predicate is true, as they are. -/
def filter (input : Query) (predicate : Formula .boolean) : Query :=
  ⟨input.layout, fun env => do
    let d ← input.run env
    return ⟨input.layout, ← keepRows predicate d.rows⟩⟩

/-! ### Renaming -/

/-- Refuses a renaming of a column that is missing, or onto a column that keeps its name. -/
def checkRenames (layout : Structure) (all : List (String × String)) :
    List (String × String) → Except Error Unit
  | [] => .ok ()
  | (source, target) :: rest =>
    if !layout.contains source then .error (.unknownColumn source)
    else if layout.contains target && (Assoc.find? all target).isNone then
      .error (.structureMismatch (.renameOnto source target))
    else checkRenames layout all rest

def rename (input : Query) (renames : List (String × String)) : Except Error Query := do
  checkRenames input.layout renames renames
  let layout ← Structure.ofComponents (input.layout.components.map fun c =>
    c.rename ((Assoc.find? renames c.name).getD c.name))
  return ⟨layout, fun env => do
    let d ← input.run env
    layRows layout (d.rows.map Row.cells)⟩

/-! ### Projecting -/

/-- Keeps the named columns, in the order in which they are named. -/
def project (input : Query) (names : List String) : Except Error Query := do
  let columns ← names.mapM input.layout.column
  let places ← names.mapM input.layout.place
  let layout ← Structure.ofComponents columns
  return ⟨layout, fun env => do
    let d ← input.run env
    layRows layout (d.rows.map (·.pick places))⟩

end DatasetScript.Query
