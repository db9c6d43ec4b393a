import DatasetScript.Pattern.Property
import DatasetScript.Text.Casing
/-!
# Regular expressions

Regular expressions as trees, with case folding and the kind of every assertion settled in the
leaves. Sets of characters are built from ranges and properties with nested brackets and the
operations of sets.
-/

namespace DatasetScript

/-- Which characters count as the same. -/
inductive Folding where
  | none
  /-- the two cases of the basic letters -/
  | ascii
  /-- all characters with the same simple case folding -/
  | simple
  deriving DecidableEq

namespace Folding

def asciiVariants (c : Char) : List Char :=
  if c.isUpper then [c, c.toLower] else if c.isLower then [c, c.toUpper] else [c]

/-- The characters that count as the same as `c`. -/
def variants : Folding → Char → List Char
  | none, c => [c]
  | ascii, c => asciiVariants c
  | simple, c => c :: caseVariants c

end Folding

inductive SetOperation where
  | intersection
  | difference
  | symmetricDifference
  deriving DecidableEq

def SetOperation.apply : SetOperation → Bool → Bool → Bool
  | intersection, a, b => a && b
  | difference, a, b => a && !b
  | symmetricDifference, a, b => a != b

inductive CharSet where
  | range (low high : Char)
  | property (p : Property) (folding : Folding) (negated : Bool)
  | union (sets : List CharSet)
  | combined (op : SetOperation) (folding : Folding) (left right : CharSet)
  | bracket (folding : Folding) (negated : Bool) (set : CharSet)

namespace CharSet

mutual

def contains : CharSet → Char → Bool
  | range low high, c => low ≤ c && c ≤ high
  | property p folding negated, c => ((folding.variants c).any p.holds) != negated
  | union sets, c => anyContains sets c
  | combined op folding left right, c =>
    op.apply ((folding.variants c).any left.contains) ((folding.variants c).any right.contains)
  | bracket folding negated set, c => ((folding.variants c).any set.contains) != negated

def anyContains : List CharSet → Char → Bool
  | [], _ => false
  | set :: rest, c => set.contains c || anyContains rest c

end

mutual

/-- How deeply brackets, operations and unions are nested. -/
def depth : CharSet → Nat
  | range _ _ => 0
  | property _ _ _ => 0
  | union [] => 0
  | union (set :: rest) => depthOfAll (set :: rest) + 1
  | combined _ _ left right => max left.depth right.depth + 1
  | bracket _ _ set => set.depth + 1

def depthOfAll : List CharSet → Nat
  | [] => 0
  | set :: rest => max set.depth (depthOfAll rest)

end

/-- An estimate of the memory that a compiled property takes. -/
def propertyWeight : Property → Nat
  | .any => 400
  | .ascii => 8
  | .blank => 600
  | .category "Nd" => 4000
  | .word => 50000
  | .listed [] codes => 60 * codes.size
  | _ => 20000

mutual

/-- An estimate of the memory that a compiled set takes. -/
def weight : CharSet → Nat
  | range _ high => if high.toNat < 0x80 then 8 else 60
  | property p _ negated => propertyWeight p + if negated then 400 else 0
  | union sets => weightOfAll sets
  | combined _ _ left right => left.weight + right.weight
  | bracket _ negated set => set.weight + if negated then 400 else 0

def weightOfAll : List CharSet → Nat
  | [] => 0
  | set :: rest => set.weight + weightOfAll rest

end

end CharSet

/-- Assertions about a place between characters. Those about words ask either for the words of all
scripts or for basic words. -/
inductive Assertion where
  | textStart
  | textEnd
  | lineStart
  | lineEnd
  /-- as `lineStart`, but a carriage return ends a line as well -/
  | returnStart
  | returnEnd
  | boundary (unicode : Bool)
  | noBoundary (unicode : Bool)
  | wordStart (unicode : Bool)
  | wordEnd (unicode : Bool)
  | halfStart (unicode : Bool)
  | halfEnd (unicode : Bool)
  deriving DecidableEq

namespace Assertion

def isWordChar (unicode : Bool) (c : Char) : Bool :=
  if unicode then Property.isWord c else c.isAlphanum || c == '_'

def isWordAt (unicode : Bool) (c : Option Char) : Bool :=
  (c.map (isWordChar unicode)).getD false

/-- Whether the assertion holds between two characters, of which either is missing at an end of
the text. -/
def holds (a : Assertion) (before after : Option Char) : Bool :=
  match a with
  | textStart => before.isNone
  | textEnd => after.isNone
  | lineStart => before.isNone || before == some '\n'
  | lineEnd => after.isNone || after == some '\n'
  | returnStart =>
    before.isNone || before == some '\n' || (before == some '\r' && after != some '\n')
  | returnEnd =>
    after.isNone || after == some '\r' || (after == some '\n' && before != some '\r')
  | boundary u => isWordAt u before != isWordAt u after
  | noBoundary u => isWordAt u before == isWordAt u after
  | wordStart u => !isWordAt u before && isWordAt u after
  | wordEnd u => isWordAt u before && !isWordAt u after
  | halfStart u => !isWordAt u before
  | halfEnd u => !isWordAt u after

end Assertion

/-- Regular expressions. Of several ways to match, the leftmost one counts, then the one that
comes first in the order of alternatives, in which a greedy repetition goes on before it stops. -/
inductive Regex where
  | empty
  | literal (c : Char) (folding : Folding)
  | set (s : CharSet)
  | assertion (a : Assertion)
  | repetition (least : Nat) (most : Option Nat) (greedy : Bool) (body : Regex)
  /-- a group, which captures what it matches if it has a number -/
  | group (number : Option Nat) (body : Regex)
  | concat (parts : List Regex)
  | alternation (branches : List Regex)

namespace Regex

/-! ### Measures -/

mutual

def depth : Regex → Nat
  | empty | literal _ _ | assertion _ => 0
  | set s => s.depth
  | repetition _ _ _ body => body.depth + 1
  | group _ body => body.depth + 1
  | concat parts => depthOfAll parts + 1
  | alternation branches => depthOfAll branches + 1

def depthOfAll : List Regex → Nat
  | [] => 0
  | r :: rest => max r.depth (depthOfAll rest)

end

mutual

/-- Whether the expression matches no characters at all. -/
def isWidthless : Regex → Bool
  | empty | assertion _ => true
  | literal _ _ | set _ => false
  | repetition _ most _ body => most == some 0 || body.isWidthless
  | group _ body => body.isWidthless
  | concat parts => allWidthless parts
  | alternation branches => allWidthless branches

def allWidthless : List Regex → Bool
  | [] => true
  | r :: rest => r.isWidthless && allWidthless rest

end

mutual

/-- Whether the expression may match the empty text. -/
def isNullable : Regex → Bool
  | empty | assertion _ => true
  | literal _ _ | set _ => false
  | repetition least _ _ body => least == 0 || body.isNullable
  | group _ body => body.isNullable
  | concat parts => allNullable parts
  | alternation branches => anyNullable branches

def allNullable : List Regex → Bool
  | [] => true
  | r :: rest => r.isNullable && allNullable rest

def anyNullable : List Regex → Bool
  | [] => false
  | r :: rest => r.isNullable || anyNullable rest

end

mutual

/-- An estimate of the memory that the compiled expression takes. -/
def weight : Regex → Nat
  | empty | assertion _ => 32
  | literal c _ => 32 * c.utf8Size
  | set s => 64 + s.weight
  | repetition least most _ body => body.weight * most.getD (least + 1) + 32
  | group _ body => body.weight + 64
  | concat parts => weightOfAll parts
  | alternation branches => weightOfAll branches + 40

def weightOfAll : List Regex → Nat
  | [] => 0
  | r :: rest => r.weight + weightOfAll rest

end

end Regex

end DatasetScript
