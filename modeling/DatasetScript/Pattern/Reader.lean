import DatasetScript.Pattern.Brackets
import DatasetScript.Data.Assoc
import DatasetScript.Number.Reading
/-!
# Reading patterns

Reads the text of a pattern as a regular expression. Groups that are still open wait on a stack
while what they hold is read, so that every step takes at least one character. There are no
look-around assertions and no references to groups.
-/

namespace DatasetScript

/-- The branches read so far of a group or of the whole pattern. -/
structure Branches where
  /-- finished branches, latest first -/
  finished : List Regex
  /-- the parts of the last branch, latest first -/
  parts : List Regex

namespace Branches

def empty : Branches := ⟨[], []⟩

def push (b : Branches) (r : Regex) : Branches := { b with parts := r :: b.parts }

def lastBranch (b : Branches) : Regex :=
  match b.parts with
  | [] => .empty
  | [r] => r
  | parts => .concat parts.reverse

def next (b : Branches) : Branches := ⟨b.lastBranch :: b.finished, []⟩

def regex (b : Branches) : Regex :=
  match b.finished with
  | [] => b.lastBranch
  | finished => .alternation (b.lastBranch :: finished).reverse

/-- Repeats the last part. At the front of a branch and after flags there is nothing to repeat. -/
def repeatLast? (b : Branches) (least : Nat) (most : Option Nat) (greedy : Bool) :
    Option Branches :=
  match b.parts with
  | [] | .empty :: _ => none
  | r :: parts => some { b with parts := .repetition least most greedy r :: parts }

end Branches

/-- A group that has not been closed, with what surrounds it. -/
structure OpenGroup where
  number : Option Nat
  before : Branches
  options : Options

structure PatternReader where
  options : Options
  branches : Branches
  /-- open groups, innermost first -/
  outer : List OpenGroup
  /-- the count of groups that capture -/
  groups : Nat
  names : List (String × Nat)

namespace PatternReader

def start : PatternReader := ⟨.standard, .empty, [], 0, []⟩

def push (s : PatternReader) (r : Regex) : PatternReader :=
  { s with branches := s.branches.push r }

/-! ### Repetitions -/

/-- A count between blanks. -/
def count? (cs : List Char) : Option Nat :=
  let ds := trim cs
  let count := Numeral.ofDigits ds
  if ds ≠ [] ∧ ds.all Char.isDigit ∧ count < 4294967296 then some count else none

/-- The bounds between the braces of a repetition. -/
def bounds? (inside : List Char) : Option (Nat × Option Nat) := do
  let least ← count? (inside.takeWhile (· != ','))
  match inside.dropWhile (· != ',') with
  | [] => return (least, some least)
  | [_] => return (least, none)
  | _ :: upper =>
    let most ← count? upper
    if least ≤ most then return (least, some most) else none

def repeatLast? (s : PatternReader) (least : Nat) (most : Option Nat) (greedy : Bool) :
    Option PatternReader := do
  let branches ← s.branches.repeatLast? least most (greedy != s.options.lazily)
  return { s with branches }

/-- Reads the mark of a lazy repetition, if there is one. -/
def readLazy : List Char → Bool × List Char
  | '?' :: rest => (false, rest)
  | rest => (true, rest)

def readRepetition (s : PatternReader) (least : Nat) (most : Option Nat) (cs : List Char) :
    Option (PatternReader × List Char) := do
  let (greedy, rest) := readLazy cs
  return (← s.repeatLast? least most greedy, rest)

def readCounted (s : PatternReader) (cs : List Char) : Option (PatternReader × List Char) := do
  let (inside, rest) ← s.options.readBraced false cs
  let (least, most) ← bounds? inside
  s.readRepetition least most (s.options.skip rest)

/-! ### Groups -/

def openGroup (s : PatternReader) (number : Option Nat) (options : Options) : PatternReader :=
  { s with options, branches := .empty, outer := ⟨number, s.branches, s.options⟩ :: s.outer }

def openCapture (s : PatternReader) : PatternReader :=
  { s.openGroup (some (s.groups + 1)) s.options with groups := s.groups + 1 }

def isNameStart (c : Char) : Bool := c == '_' || Property.isAlphabetic c

def isNamePart (c : Char) : Bool :=
  isNameStart c || c == '.' || c == '[' || c == ']' ||
    Property.categoryWithin "N" (Property.generalCategory c)

/-- Reads the name of a group, which no other group may have, up to the mark that closes it. -/
def readNamedGroup (s : PatternReader) (cs : List Char) : Option (PatternReader × List Char) :=
  let name := cs.takeWhile (· != '>')
  match name, cs.dropWhile (· != '>') with
  | c :: others, _ :: rest =>
    let text := String.ofList name
    if isNameStart c && others.all isNamePart && (Assoc.find? s.names text).isNone then
      some ({ s.openCapture with names := (text, s.groups + 1) :: s.names }, rest)
    else none
  | _, _ => none

def readGroup (s : PatternReader) (cs : List Char) : Option (PatternReader × List Char) :=
  match s.options.skip cs with
  | '?' :: 'P' :: '<' :: rest => s.readNamedGroup rest
  | '?' :: '<' :: '=' :: _ | '?' :: '<' :: '!' :: _ => none
  | '?' :: '<' :: rest => s.readNamedGroup rest
  | '?' :: rest => do
    let (options, mark, rest) ← s.options.readFlags true [] rest
    if mark = ')' then return ({ s with options }.push .empty, rest)
    else return (s.openGroup none options, rest)
  | rest => some (s.openCapture, rest)

def closeGroup (s : PatternReader) : Option PatternReader :=
  match s.outer with
  | [] => none
  | g :: outer =>
    some { s with
      options := g.options
      branches := g.before.push (.group g.number s.branches.regex)
      outer }

/-! ### Single parts -/

def lineStart (o : Options) : Assertion :=
  if !o.multiLine then .textStart else if o.carriageReturn then .returnStart else .lineStart

def lineEnd (o : Options) : Assertion :=
  if !o.multiLine then .textEnd else if o.carriageReturn then .returnEnd else .lineEnd

def partOf (o : Options) : Element → Regex
  | .literal c => .literal c o.folding
  | .set set => .set set
  | .assertion a => .assertion a

def step (s : PatternReader) (c : Char) (rest : List Char) :
    Option (PatternReader × List Char) :=
  match c with
  | '(' => s.readGroup rest
  | ')' => do return (← s.closeGroup, rest)
  | '|' => some ({ s with branches := s.branches.next }, rest)
  | '[' => do
    let (set, rest) ← Brackets.read s.options rest
    return (s.push (.set set), rest)
  | '?' => s.readRepetition 0 (some 1) rest
  | '*' => s.readRepetition 0 none rest
  | '+' => s.readRepetition 1 none rest
  | '\x7b' => s.readCounted rest
  | '.' => do return (s.push (.set (← Element.dot? s.options)), rest)
  | '^' => some (s.push (.assertion (lineStart s.options)), rest)
  | '$' => some (s.push (.assertion (lineEnd s.options)), rest)
  | '\\' => do
    let (e, rest) ← Element.readEscape s.options rest
    return (s.push (partOf s.options e), rest)
  | c => some (s.push (.literal c s.options.folding), rest)

/-- Reads up to the end of the text, where no group may be open. -/
def run : Nat → PatternReader → List Char → Option PatternReader
  | 0, _, _ => none
  | fuel + 1, s, cs =>
    match s.options.skip cs with
    | [] => if s.outer.isEmpty then some s else none
    | c :: rest => do
      let (s, rest) ← s.step c rest
      run fuel s rest

end PatternReader

end DatasetScript
