import DatasetScript.Data.Structure
import DatasetScript.Json.Record
/-!
# Columns in JSON

Types and roles go by their names, columns are records of name, type and role.
-/

namespace DatasetScript

def DataType.ofName? : String → Option DataType
  | "Integer" => some .integer
  | "Number" => some .number
  | "Boolean" => some .boolean
  | "String" => some .string
  | "Dataset" => some .dataset
  | _ => none

def DataType.ofJson? (j : Json) : Option DataType := j.plainVariant?.bind DataType.ofName?

def Role.ofName? : String → Option Role
  | "Identifier" => some .identifier
  | "Measure" => some .measure
  | "Attribute" => some .attr
  | _ => none

def Role.ofJson? (j : Json) : Option Role := j.plainVariant?.bind Role.ofName?

def Component.ofJson? (j : Json) : Option Component :=
  match j.record? ["name", "type", "role"] with
  | some [some name, some type, some role] => do
    return ⟨← name.string?, ← DataType.ofJson? type, ← Role.ofJson? role⟩
  | _ => none

def Component.toJson (c : Component) : Json :=
  .object [("name", .string c.name), ("role", .string c.role.name), ("type", .string c.type.name)]

theorem DataType.ofName?_name (t : DataType) : ofName? t.name = some t := by
  cases t with
  | scalar t => cases t <;> rfl
  | dataset => rfl

theorem Role.ofName?_name (r : Role) : ofName? r.name = some r := by
  cases r <;> rfl

end DatasetScript
