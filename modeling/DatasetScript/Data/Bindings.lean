import DatasetScript.Data.Dataset
/-!
# Bindings, environments and scopes

Variables are bound to values. While an expression is resolved, an environment gives each name its
value; while it is checked, a scope gives each name its declaration. Bindings provide both, a row
provides an environment, and a structure the scope for expressions about its rows.
-/

namespace DatasetScript

/-- Variables with their values, sorted by name. -/
abbrev Bindings := List (String × Value)

/-- What a name stands for while an expression is resolved. -/
abbrev Env := String → Option Value

/-- What is known of a name while an expression is checked. -/
inductive Declaration where
  /-- bound to NULL, so that no type is known -/
  | null
  | column (t : DataType)
  | dataset (layout : Structure)
  deriving DecidableEq

abbrev Scope := String → Option Declaration

/-- The declaration that a bound value amounts to. -/
def Declaration.ofValue : Value → Declaration
  | .dataset d => .dataset d.layout
  | v =>
    match v.type? with
    | some t => .column t
    | none => .null

def Bindings.env (b : Bindings) : Env := Assoc.find? b

def Bindings.scope (b : Bindings) : Scope := fun name => (b.env name).map .ofValue

def Row.env (r : Row) : Env := r.get?

def Structure.scope (s : Structure) : Scope := fun name => (s.columnType? name).map .column

end DatasetScript
