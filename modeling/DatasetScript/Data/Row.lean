import DatasetScript.Data.Value
/-!
# Rows

Rows are built from cells in layout order or from named cells, and read by name. A row is
well formed when it has one cell per column of its layout.
-/

namespace DatasetScript.Row

def nulls (layout : Structure) : Row := ⟨layout, List.replicate layout.size .null⟩

def WellFormed (r : Row) : Prop := r.cells.length = r.layout.size

/-- A row from cells in layout order. -/
def ofCells (layout : Structure) (cells : List Value) : Except Error Row :=
  if cells.length = layout.size then .ok ⟨layout, cells⟩
  else .error (.structureMismatch (.rowWidth cells.length layout.size))

def set (r : Row) (name : String) (v : Value) : Except Error Row := do
  let i ← r.layout.place name
  return { r with cells := r.cells.set i v }

def setAll (r : Row) : List (String × Value) → Except Error Row
  | [] => .ok r
  | (name, v) :: rest => do (← r.set name v).setAll rest

/-- A row from named cells. Columns that are left out are NULL, and of two cells with one name
the later counts. -/
def ofEntries (layout : Structure) (entries : List (String × Value)) : Except Error Row :=
  (nulls layout).setAll entries

def get? (r : Row) (name : String) : Option Value :=
  (r.layout.indexOf? name).bind (r.cells[·]?)

/-- The cell at a place, NULL where the row is too short. -/
def cell (r : Row) (i : Nat) : Value := r.cells[i]?.getD .null

/-- The cells at the given places, in that order. -/
def pick (r : Row) (places : List Nat) : List Value := places.map r.cell

def entries (r : Row) : List (String × Value) := r.layout.names.zip r.cells

end DatasetScript.Row
