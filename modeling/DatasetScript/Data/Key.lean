import DatasetScript.Data.Equality
/-!
# Keys

Rows are matched and grouped by key cells. As keys, NULL agrees with NULL, and numbers agree when
their bits do, so that NaN agrees with itself and the two zeros differ.

A `Float` that is not a number is always the same one, with one pattern of bits. Where there are
several, such as a NaN and its negation, comparing bits tells them apart; here they are one key.
-/

namespace DatasetScript

def sameKeyCell : Value → Value → Bool
  | .number x, .number y => x.toBits == y.toBits
  | v, w => v == w

def sameKey : List Value → List Value → Bool
  | [], [] => true
  | v :: vs, w :: ws => sameKeyCell v w && sameKey vs ws
  | _, _ => false

/-- Adds an item to the first group with its key, or opens a new group at the end. -/
def addToGroup {α : Type} (key : List Value) (a : α) :
    List (List Value × List α) → List (List Value × List α)
  | [] => [(key, [a])]
  | (other, members) :: rest =>
    if sameKey other key then (other, members ++ [a]) :: rest
    else (other, members) :: addToGroup key a rest

/-- Groups items by key, in the order in which keys appear. -/
def groupByKey {α : Type} (key : α → List Value) (items : List α) :
    List (List Value × List α) :=
  items.foldl (fun groups a => addToGroup (key a) a groups) []

end DatasetScript
