import DatasetScript.Data.Structure
/-!
# Columns put in one by one

A structure is put together column by column. Every column remembers the place at which it was put in,
so that a position can be read off the column as well as off the order of the columns. What a column
remembers of a structure that it was taken from is overwritten, and has no part in equality.
-/

namespace DatasetScript

/-- A column with the place that it remembers. -/
structure PlacedColumn where
  column : Component
  place : Nat

/-- Columns are equal whatever places they remember. -/
instance : BEq PlacedColumn := ⟨fun a b => a.column == b.column⟩

/-- A column that has not been put anywhere. -/
def Component.unplaced (c : Component) : PlacedColumn := ⟨c, 0⟩

/-- Columns by name, in the order in which they were put in. -/
abbrev ColumnMap := List (String × PlacedColumn)

namespace ColumnMap

/-- Puts a column at the end, under a name that must be new. -/
def add (m : ColumnMap) (c : PlacedColumn) : Except Error ColumnMap :=
  if (Assoc.find? m c.column.name).isSome then
    .error (.structureMismatch (.duplicateComponent c.column.name))
  else .ok (Assoc.put m c.column.name ⟨c.column, m.length⟩)

def addAll (m : ColumnMap) : List PlacedColumn → Except Error ColumnMap
  | [] => .ok m
  | c :: rest => do (← m.add c).addAll rest

def ofColumns (columns : List PlacedColumn) : Except Error ColumnMap := addAll [] columns

/-- The place of a name in the order of the columns. -/
def indexOf? (m : ColumnMap) (name : String) : Option Nat := m.findIdx? (·.1 == name)

/-- The place that a column remembers here, provided that it is equal to the given one. -/
def indexOfColumn? (m : ColumnMap) (c : PlacedColumn) : Option Nat :=
  (Assoc.find? m c.column.name).bind fun own => if own == c then some own.place else none

end ColumnMap

namespace Structure

/-- The columns of a structure by name, each with its place. -/
def columnMap (s : Structure) : ColumnMap := s.components.mapIdx fun i c => (c.name, ⟨c, i⟩)

/-- Whether two structures are equal as maps from names to columns. -/
def equal (a b : Structure) : Bool := Assoc.sameMap a.columnMap b.columnMap

end Structure

end DatasetScript
