import DatasetScript.Pattern.Element
/-!
# Bracketed sets

Sets of characters between brackets: single characters, ranges, classes, nested sets, and the
operations `&&`, `--` and `~~`, which apply from left to right to everything on their sides.
-/

namespace DatasetScript

/-- A set whose closing bracket has not been reached. -/
structure OpenSet where
  negated : Bool
  /-- the last operation with its left side -/
  pending : Option (SetOperation × CharSet)
  /-- what has come since, latest first -/
  sets : List CharSet

namespace OpenSet

def add (s : OpenSet) (set : CharSet) : OpenSet := { s with sets := set :: s.sets }

def recent (s : OpenSet) : CharSet :=
  match s.sets with
  | [set] => set
  | sets => .union sets.reverse

/-- The set read so far, without the negation. -/
def content (folding : Folding) (s : OpenSet) : CharSet :=
  match s.pending with
  | some (op, left) => .combined op folding left s.recent
  | none => s.recent

def operate (folding : Folding) (s : OpenSet) (op : SetOperation) : OpenSet :=
  { s with pending := some (op, s.content folding), sets := [] }

/-- Without the Unicode option a negated set would hold parts of characters. -/
def close? (o : Options) (s : OpenSet) : Option CharSet :=
  if s.negated && !o.unicode then none
  else some (.bracket o.folding s.negated (s.content o.folding))

end OpenSet

namespace Brackets

/-- The character that an element within brackets stands for. -/
def charOf? (o : Options) : Element → Option Char
  | .literal c => if o.unicode || c.toNat < 0x80 then some c else none
  | _ => none

def setOf? (o : Options) : Element → Option CharSet
  | .literal c => (charOf? o (.literal c)).map fun c => .range c c
  | .set s => some s
  | .assertion _ => none

def readElement (o : Options) : List Char → Option (Element × List Char)
  | [] => none
  | '\\' :: rest => Element.readEscape o rest
  | c :: rest => some (.literal c, rest)

/-- A class, a character, or a range of characters. A hyphen before a bracket or another hyphen
makes no range. -/
def readRange (o : Options) (cs : List Char) : Option (CharSet × List Char) := do
  let (first, rest) ← readElement o cs
  match o.skip rest with
  | [] => none
  | '-' :: more =>
    if o.peek more = some ']' ∨ o.peek more = some '-' then
      return (← setOf? o first, '-' :: more)
    else
      let (last, rest) ← readElement o (o.skip more)
      let low ← charOf? o first
      let high ← charOf? o last
      if low ≤ high then some (.range low high, rest) else none
  | rest => return (← setOf? o first, rest)

/-- A class written by name between colons, after its opening bracket. -/
def readNamed? (cs : List Char) : Option (CodeSet × Bool × List Char) :=
  match cs with
  | ':' :: rest =>
    let (negated, rest) := match rest with
      | '^' :: rest => (true, rest)
      | rest => (false, rest)
    match rest.dropWhile (· != ':') with
    | ':' :: ']' :: after =>
      (Element.namedCodes? (rest.takeWhile (· != ':'))).map (·, negated, after)
    | _ => none
  | _ => none

/-- Hyphens at the front of a set stand for themselves. -/
def readHyphens (o : Options) : Nat → OpenSet → List Char → OpenSet × List Char
  | fuel + 1, s, '-' :: rest => readHyphens o fuel (s.add (.range '-' '-')) (o.skip rest)
  | _, s, cs => (s, cs)

/-- The front of a set, after its opening bracket. A closing bracket stands for itself where the
set would else be empty. -/
def readOpening (o : Options) (cs : List Char) : OpenSet × List Char :=
  let (negated, cs) := match o.skip cs with
    | '^' :: rest => (true, o.skip rest)
    | cs => (false, cs)
  let (s, cs) := readHyphens o cs.length ⟨negated, none, []⟩ cs
  match s.sets, cs with
  | [], ']' :: rest => (s.add (.range ']' ']'), rest)
  | _, cs => (s, cs)

/-- Reads up to the bracket that closes the outermost set. Every step takes a character. -/
def readSets (o : Options) : Nat → OpenSet → List OpenSet → List Char → Option (CharSet × List Char)
  | 0, _, _, _ => none
  | fuel + 1, s, outer, cs =>
    match o.skip cs with
    | [] => none
    | '[' :: rest =>
      match readNamed? rest with
      | some (codes, negated, rest) => do
        let set ← Element.basicClass? o codes o.folding negated
        readSets o fuel (s.add set) outer rest
      | none =>
        let (inner, rest) := readOpening o rest
        readSets o fuel inner (s :: outer) rest
    | ']' :: rest => do
      let set ← s.close? o
      match outer with
      | [] => return (set, rest)
      | parent :: outer => readSets o fuel (parent.add set) outer rest
    | '&' :: '&' :: rest => readSets o fuel (s.operate o.folding .intersection) outer rest
    | '-' :: '-' :: rest => readSets o fuel (s.operate o.folding .difference) outer rest
    | '~' :: '~' :: rest => readSets o fuel (s.operate o.folding .symmetricDifference) outer rest
    | cs => do
      let (set, rest) ← readRange o cs
      readSets o fuel (s.add set) outer rest

def read (o : Options) (cs : List Char) : Option (CharSet × List Char) :=
  let (s, rest) := readOpening o cs
  readSets o (rest.length + 1) s [] rest

end Brackets

end DatasetScript
