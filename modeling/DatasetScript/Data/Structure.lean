import DatasetScript.Error
import DatasetScript.Data.Assoc
/-!
# Structures

A structure is the ordered list of columns of a dataset, each with a name, a type and a role, no
two under one name. Structures are compatible when they hold the same columns, in whatever order.
-/

namespace DatasetScript

structure Component where
  name : String
  type : DataType
  role : Role
  deriving DecidableEq

namespace Component

def isIdentifier (c : Component) : Bool := c.role == .identifier

/-- The same type and role under a different name. -/
def rename (c : Component) (name : String) : Component := { c with name }

end Component

/-- The first name that repeats one before it. -/
def firstRepeat? (seen : List String) : List String → Option String
  | [] => none
  | name :: rest => if name ∈ seen then some name else firstRepeat? (name :: seen) rest

structure Structure where
  components : List Component
  nodup : (components.map Component.name).Nodup
  deriving DecidableEq

namespace Structure

def empty : Structure := ⟨[], List.nodup_nil⟩

/-- The structure with the given columns, whose names must differ. -/
def ofComponents (components : List Component) : Except Error Structure :=
  if h : (components.map Component.name).Nodup then .ok ⟨components, h⟩
  else
    let repeated := (firstRepeat? [] (components.map Component.name)).getD ""
    .error (.structureMismatch (.duplicateComponent repeated))

/-- The structure with the columns of `types` in order, and the roles that `roles` gives them.
Both must name the same columns. -/
def ofTypesAndRoles (types : List (String × DataType)) (roles : List (String × Role)) :
    Except Error Structure :=
  if types.length = roles.length ∧ types.all (fun (name, _) => (Assoc.find? roles name).isSome)
  then
    ofComponents (types.map fun (name, type) =>
      ⟨name, type, (Assoc.find? roles name).getD .measure⟩)
  else .error (.structureMismatch .keysDiffer)

def names (s : Structure) : List String := s.components.map Component.name

def size (s : Structure) : Nat := s.components.length

def get? (s : Structure) (name : String) : Option Component :=
  s.components.find? (·.name == name)

/-- The place of a column, from zero. -/
def indexOf? (s : Structure) (name : String) : Option Nat :=
  s.components.findIdx? (·.name == name)

/-- The column under a name, which must be there. -/
def column (s : Structure) (name : String) : Except Error Component :=
  match s.get? name with
  | some c => .ok c
  | none => .error (.unknownColumn name)

/-- The place of the column under a name, which must be there. -/
def place (s : Structure) (name : String) : Except Error Nat :=
  match s.indexOf? name with
  | some i => .ok i
  | none => .error (.unknownColumn name)

def contains (s : Structure) (name : String) : Bool := (s.get? name).isSome

/-- The place of a column, provided that the structure holds it with the same type and role. -/
def indexOfComponent? (s : Structure) (c : Component) : Option Nat :=
  if s.get? c.name = some c then s.indexOf? c.name else none

def identifiers (s : Structure) : List Component := s.components.filter (·.isIdentifier)

/-- Whether two structures hold the same columns, regardless of order. -/
def isCompatibleWith (a b : Structure) : Bool :=
  a.size == b.size && a.components.all fun c => b.get? c.name == some c

/-- What a name stands for in an expression about the rows of a dataset. -/
def columnType? (s : Structure) (name : String) : Option DataType :=
  (s.get? name).map Component.type

end Structure

end DatasetScript
