import DatasetScript.Pattern
import DatasetScript.Pattern.Reader
import DatasetScript.Pattern.Replacement
/-!
# Matchers

The library of regular expressions that the program is run with. A matcher is a regular expression
that has been read and laid out for search. Two things are coarser here than in other libraries: the
properties of characters are those that `Property` knows, and whether a pattern is too large is
decided by an estimate.
-/

namespace DatasetScript

structure Matcher where
  program : PatternProgram
  /-- the numbers of the groups with names -/
  names : List (String × Nat)

namespace Matcher

def greatestDepth : Nat := 250

def greatestWeight : Nat := 10485760

def ofText? (text : String) : Option Matcher := do
  let cs := text.toList
  let s ← PatternReader.run (cs.length + 1) .start cs
  let r := s.branches.regex
  if r.depth ≤ greatestDepth ∧ r.weight ≤ greatestWeight then some ⟨r.program, s.names⟩ else none

def isMatch (m : Matcher) (text : String) : Bool :=
  (m.program.find? text.toList.toArray 0).isSome

def replaceAll (m : Matcher) (text replacement : String) : String :=
  let cs := text.toList.toArray
  let parts := ReplacementPart.ofText replacement.toList
  let found := m.program.findAll cs (cs.size + 2) 0 none
  String.ofList
    (replaceMatches (fun f => parts.flatMap (ReplacementPart.expand m.names cs f)) cs 0 found)

end Matcher

instance matcherLanguage : PatternLanguage where
  compile? text := (Matcher.ofText? text).map fun m => ⟨m.isMatch, m.replaceAll⟩

end DatasetScript
