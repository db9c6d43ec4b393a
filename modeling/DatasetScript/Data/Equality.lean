import DatasetScript.Data.Value
/-!
# Equality of values

Values are equal when they have the same type and content: numbers as numbers, so that NaN equals
nothing; datasets when their structures hold the same columns and their rows agree cell by cell.
-/

namespace DatasetScript

mutual

def Value.beq : Value → Value → Bool
  | .null, .null => true
  | .integer a, .integer b => a == b
  | .number x, .number y => x == y
  | .boolean a, .boolean b => a == b
  | .string s, .string t => s == t
  | .dataset d, .dataset e => d.beq e
  | _, _ => false

def cellsBeq : List Value → List Value → Bool
  | [], [] => true
  | v :: vs, w :: ws => v.beq w && cellsBeq vs ws
  | _, _ => false

def Row.beq : Row → Row → Bool
  | ⟨layout, cells⟩, r => layout.isCompatibleWith r.layout && cellsBeq cells r.cells

def rowsBeq : List Row → List Row → Bool
  | [], [] => true
  | r :: rs, s :: ss => r.beq s && rowsBeq rs ss
  | _, _ => false

def Dataset.beq : Dataset → Dataset → Bool
  | ⟨layout, rows⟩, d => layout.isCompatibleWith d.layout && rowsBeq rows d.rows

end

instance : BEq Value := ⟨Value.beq⟩

instance : BEq Row := ⟨Row.beq⟩

instance : BEq Dataset := ⟨Dataset.beq⟩

end DatasetScript
