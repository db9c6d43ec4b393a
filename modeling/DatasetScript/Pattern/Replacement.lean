import DatasetScript.Pattern.Search
import DatasetScript.Number.Reading
/-!
# Replacements

A replacement is a text in which `$1`, `$name` and their forms with braces stand for what a group
has captured, and `$$` for a dollar sign. What no group has captured is empty.
-/

namespace DatasetScript

inductive ReplacementPart where
  | char (c : Char)
  | group (name : List Char)

namespace ReplacementPart

def isNameChar (c : Char) : Bool := c.isAlphanum || c == '_'

/-- What a dollar sign and the characters after it stand for. A dollar sign without a name stands
for itself. -/
def readReference (cs : List Char) : ReplacementPart × List Char :=
  match cs with
  | '$' :: rest => (char '$', rest)
  | '\x7b' :: rest =>
    match rest.dropWhile (· != '\x7d') with
    | _ :: after => (group (rest.takeWhile (· != '\x7d')), after)
    | [] => (char '$', cs)
  | cs =>
    match cs.takeWhile isNameChar with
    | [] => (char '$', cs)
    | name => (group name, cs.dropWhile isNameChar)

def readAll : Nat → List Char → List ReplacementPart
  | 0, _ => []
  | _, [] => []
  | fuel + 1, '$' :: rest =>
    let (part, rest) := readReference rest
    part :: readAll fuel rest
  | fuel + 1, c :: rest => char c :: readAll fuel rest

/-- The parts of a replacement. Every part takes at least one character. -/
def ofText (text : List Char) : List ReplacementPart := readAll text.length text

/-- The number that a name stands for, if it is one. -/
def number? (name : List Char) : Option Nat :=
  let ds := match name with
    | '+' :: ds => ds
    | ds => ds
  if ds ≠ [] ∧ ds.all Char.isDigit then some (Numeral.ofDigits ds) else none

/-- What a group has captured. -/
def captured (text : Array Char) (m : Marks) (number : Nat) : List Char :=
  match m.get? (2 * number), m.get? (2 * number + 1) with
  | some start, some finish => (text.extract start finish).toList
  | _, _ => []

def expand (names : List (String × Nat)) (text : Array Char) (m : Marks) :
    ReplacementPart → List Char
  | char c => [c]
  | group name =>
    match number? name <|> (names.find? (·.1.toList == name)).map (·.2) with
    | some number => captured text m number
    | none => []

end ReplacementPart

/-- Puts the expanded parts in place of each match, given in order. -/
def replaceMatches (parts : Marks → List Char) (text : Array Char) (place : Nat) :
    List Marks → List Char
  | [] => (text.extract place text.size).toList
  | m :: rest =>
    let start := (m.get? 0).getD place
    let finish := (m.get? 1).getD start
    (text.extract place start).toList ++ parts m ++ replaceMatches parts text finish rest

end DatasetScript
