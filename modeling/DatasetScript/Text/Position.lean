/-!
# Positions in texts

Cutting and searching texts by position. Positions count characters from one; a start before the
text counts as its first position.
-/

namespace DatasetScript

/-- The number of characters before a start position. -/
def charsBefore (start : Int) : Nat := (max start 1 - 1).toNat

/-- At most `length` characters from a start position on. -/
def substr (s : List Char) (start : Int) (length : Nat) : List Char :=
  (s.drop (charsBefore start)).take length

/-- The positions at which a pattern occurs in a text whose first character has the given
position. Occurrences may overlap. -/
def occurrences (pattern : List Char) (position : Nat) : List Char → List Nat
  | [] => []
  | c :: rest =>
    let later := occurrences pattern (position + 1) rest
    if pattern.isPrefixOf (c :: rest) then position :: later else later

/-- The position of an occurrence of a pattern, counted from a start position on, or zero. The
empty pattern occurs nowhere. -/
def instr (s pattern : List Char) (start : Int) (occurrence : Nat) : Nat :=
  if pattern = [] then 0
  else
    let skipped := charsBefore start
    ((occurrences pattern (skipped + 1) (s.drop skipped))[occurrence - 1]?).getD 0

end DatasetScript
