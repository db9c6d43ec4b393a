import DatasetScript.Data.Row
/-!
# Datasets

Datasets are built from rows of cells or of named cells. In a dataset built here every row has the
layout of the dataset.
-/

namespace DatasetScript.Dataset

def ofCells (layout : Structure) (rows : List (List Value)) : Except Error Dataset := do
  return ⟨layout, ← rows.mapM (Row.ofCells layout)⟩

def ofEntries (layout : Structure) (rows : List (List (String × Value))) :
    Except Error Dataset := do
  return ⟨layout, ← rows.mapM (Row.ofEntries layout)⟩

def empty (layout : Structure) : Dataset := ⟨layout, []⟩

def size (d : Dataset) : Nat := d.rows.length

/-- Brings a dataset with the declared columns into the declared order, cell by name. A dataset
with other columns is a mismatch under the name that it was found by. -/
def conform (declared : Structure) (name : String) (d : Dataset) : Except Error Dataset :=
  if !d.layout.isCompatibleWith declared then
    .error (.typeMismatch (.columns declared.names) (.columns d.layout.names) name)
  else if d.layout.names = declared.names then .ok d
  else ofEntries declared (d.rows.map Row.entries)

end DatasetScript.Dataset
