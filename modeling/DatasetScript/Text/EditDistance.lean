/-!
# Edit distance

The least number of insertions, deletions and substitutions of single characters that turn one
text into another, computed row by row.
-/

namespace DatasetScript

/-- The cells of a row to the right of `left`, given the row above from `diagonal` on. -/
def distanceCells (c : Char) (left diagonal : Nat) : List Char → List Nat → List Nat
  | d :: rest, above :: cells =>
    let cell := min (min (diagonal + if c = d then 0 else 1) (above + 1)) (left + 1)
    cell :: distanceCells c cell above rest cells
  | _, _ => []

/-- The distances of a text with `c` appended to all prefixes of `b`, given those without. -/
def nextDistances (b : List Char) (row : List Nat) (c : Char) : List Nat :=
  match row with
  | [] => []
  | first :: cells => (first + 1) :: distanceCells c (first + 1) first b cells

/-- The distances of a text to all prefixes of `b`. -/
def prefixDistances (a b : List Char) : List Nat :=
  a.foldl (nextDistances b) (List.range (b.length + 1))

def levenshtein (a b : List Char) : Nat := (prefixDistances a b).getLastD 0

end DatasetScript
