import DatasetScript.Json.Tree
/-!
# Records and variants in JSON

Records are objects, or arrays of their fields in order. Variants are texts, or objects whose one
member holds what the variant carries.
-/

namespace DatasetScript.Json

/-- Whether at most one member has the name. -/
def occursOnce (members : List (String × Json)) (name : String) : Bool :=
  (members.filter (·.1 == name)).length ≤ 1

/-- The fields of a record, those that are left out being missing. No field may come twice; members
of other names do not count. -/
def record? (names : List String) : Json → Option (List (Option Json))
  | object members =>
    if names.all (occursOnce members) then some (names.map (Assoc.find? members)) else none
  | array items =>
    if items.length ≤ names.length then
      some (items.map some ++ List.replicate (names.length - items.length) none)
    else none
  | _ => none

/-- The name of a variant and what it carries, if it carries anything. -/
def variant? : Json → Option (String × Option Json)
  | string name => some (name, none)
  | object [(name, content)] => some (name, some content)
  | _ => none

/-- The name of a variant that carries nothing. -/
def plainVariant? (j : Json) : Option String :=
  match j.variant? with
  | some (name, none) | some (name, some null) => some name
  | _ => none

def list? {α : Type} (decode : Json → Option α) : Json → Option (List α)
  | array items => items.mapM decode
  | _ => none

/-- A field that may be missing or null. -/
def optional? {α : Type} (decode : Json → Option α) : Option Json → Option (Option α)
  | none | some null => some none
  | some j => (decode j).map some

/-- A list that may be missing. -/
def listOrEmpty? {α : Type} (decode : Json → Option α) : Option Json → Option (List α)
  | none => some []
  | some j => j.list? decode

end DatasetScript.Json
