import DatasetScript.Data.Bindings
import DatasetScript.Interchange.Structure
import DatasetScript.Json.Writer
import DatasetScript.Number.Integer
/-!
# Bindings in JSON

Single values are JSON values of their own kind. A dataset is an object with a list of columns
under `structure` and a list of rows under `rows`, each row an object of named cells. Objects are
read as sorted by name.
-/

namespace DatasetScript

/-! ### Reading -/

/-- Integers that do not fit are numbers. -/
def Value.ofInteger (n : Int) : Value :=
  match toInt64? n with
  | some i => .integer i
  | none => .number (Binary64.ofRatio (n < 0) n.natAbs 1)

def Value.ofScalarJson : Json → Except Error Value
  | .null => .ok .null
  | .bool b => .ok (.boolean b)
  | .integer n => .ok (.ofInteger n)
  | .float x => .ok (.number x)
  | .string s => .ok (.string s)
  | j => .error (.resolutionFailure (.unsupportedJson j.compact))

namespace Row

/-- A named cell, brought to the type of its column. -/
def cellOfJson (layout : Structure) (name : String) (j : Json) : Except Error (String × Value) :=
  match layout.get? name with
  | none => .error (.unknownColumn name)
  | some c => do return (name, ← (← Value.ofScalarJson j).cast c.type)

def ofJson (layout : Structure) : Json → Except Error Row
  | .object members => do
    let cells ← members.mapM fun (name, j) => cellOfJson layout name j
    ofEntries layout cells
  | _ => .error (.resolutionFailure .rowNotObject)

end Row

namespace Dataset

def rowsOfJson : Option Json → Except Error (List Json)
  | none => .ok []
  | some (.array rows) => .ok rows
  | some _ => .error (.resolutionFailure .rowsNotArray)

/-- Reads a dataset from the list of its columns and the rows, which may be left out. -/
def ofJson (columns : Json) (rows : Option Json) : Except Error Dataset :=
  match columns.list? Component.ofJson? with
  | none => .error (.resolutionFailure .invalidStructure)
  | some components => do
    let layout ← Structure.ofComponents components
    let rows ← rowsOfJson rows
    return ⟨layout, ← rows.mapM (Row.ofJson layout)⟩

end Dataset

/-- An object with a member `structure` is a dataset. -/
def Value.ofJson (j : Json) : Except Error Value :=
  match j.member? "structure" with
  | some columns => do return .dataset (← Dataset.ofJson columns (j.member? "rows"))
  | none => ofScalarJson j

namespace Bindings

def bindingOfJson (name : String) (j : Json) : Except Error (String × Value) :=
  match Value.ofJson j with
  | .ok v => .ok (name, v)
  | .error e => .error (.resolutionFailure (.binding name e.message))

/-- Reads an object, each member of which is a binding. -/
def ofJson : Json → Except Error Bindings
  | .object members => members.mapM fun (name, j) => bindingOfJson name j
  | _ => .error (.resolutionFailure .bindingsNotObject)

end Bindings

/-! ### Writing -/

mutual

/-- Numbers that are not finite are written as null. -/
def Value.toJson : Value → Json
  | .null => .null
  | .integer i => .integer i.toInt
  | .number x => if x.isFinite then .float x else .null
  | .boolean b => .bool b
  | .string s => .string s
  | .dataset d => d.toJson

def Dataset.toJson : Dataset → Json
  | ⟨layout, rows⟩ =>
    .object [("rows", .array (rowsToJson rows)),
      ("structure", .array (layout.components.map Component.toJson))]

def rowsToJson : List Row → List Json
  | [] => []
  | ⟨layout, cells⟩ :: rest =>
    .object (Assoc.sorted (layout.names.zip (cellsToJson cells))) :: rowsToJson rest

def cellsToJson : List Value → List Json
  | [] => []
  | v :: rest => v.toJson :: cellsToJson rest

end

def Bindings.toJson (b : Bindings) : Json :=
  .object (b.map fun (name, v) => (name, v.toJson))

end DatasetScript
