import DatasetScript.Pattern.Program
/-!
# Searching

Runs the program of a pattern over a text. Of the ways that begin at one place the first that
succeeds counts. A step that has failed at a place is not tried there again, so that a search
takes at most as many steps as there are pairs of steps and places.
-/

namespace DatasetScript

/-- The places recorded in slots. -/
abbrev Marks := List (Nat × Nat)

def Marks.get? (m : Marks) (slot : Nat) : Option Nat := (m.find? (·.1 == slot)).map (·.2)

/-- A way that is still to be tried. -/
structure Way where
  step : Nat
  place : Nat
  marks : Marks

namespace PatternProgram

/-- The ways that lead on from a step. -/
def follow (text : Array Char) (w : Way) : Step → List Way
  | .accept => []
  | .literal c folding next =>
    match text[w.place]? with
    | some d =>
      if (folding.variants d).contains c then [⟨next, w.place + 1, w.marks⟩] else []
    | none => []
  | .set s next =>
    match text[w.place]? with
    | some d => if s.contains d then [⟨next, w.place + 1, w.marks⟩] else []
    | none => []
  | .assertion a next =>
    let before := if w.place = 0 then none else text[w.place - 1]?
    if a.holds before text[w.place]? then [⟨next, w.place, w.marks⟩] else []
  | .save slot next => [⟨next, w.place, (slot, w.place) :: w.marks⟩]
  | .fork first second => [⟨first, w.place, w.marks⟩, ⟨second, w.place, w.marks⟩]

/-- Tries ways in order. Gives the marks of the first success, and the pairs of steps and places
that have been tried. -/
def explore (p : PatternProgram) (text : Array Char) :
    Nat → List Way → Array Bool → Option Marks × Array Bool
  | 0, _, tried => (none, tried)
  | _, [], tried => (none, tried)
  | fuel + 1, w :: ways, tried =>
    let pair := w.step * (text.size + 1) + w.place
    if tried.getD pair true then p.explore text fuel ways tried
    else
      let tried := tried.set! pair true
      match p.graph[w.step]? with
      | none => p.explore text fuel ways tried
      | some .accept => (some w.marks, tried)
      | some s => p.explore text fuel (follow text w s ++ ways) tried

/-- Tries each place in turn, up to the end of the text. -/
def search (p : PatternProgram) (text : Array Char) (fuel : Nat) (place : Nat)
    (tried : Array Bool) : Nat → Option Marks
  | 0 => none
  | places + 1 =>
    match p.explore text fuel [⟨p.entry, place, []⟩] tried with
    | (some marks, _) => some marks
    | (none, tried) => p.search text fuel (place + 1) tried places

/-- The first match at a place or after it. Every step is tried once at each place and adds two
ways at most, which bounds the search. -/
def find? (p : PatternProgram) (text : Array Char) (place : Nat) : Option Marks :=
  let pairs := p.graph.size * (text.size + 1)
  p.search text (2 * pairs + 2) place (Array.replicate pairs false) (text.size + 1 - place)

/-- All matches from a place on, from left to right and without overlaps. An empty match at the
end of the one before is passed over. -/
def findAll (p : PatternProgram) (text : Array Char) : Nat → Nat → Option Nat → List Marks
  | 0, _, _ => []
  | fuel + 1, place, last =>
    match p.find? text place with
    | none => []
    | some m =>
      let finish := (m.get? 1).getD place
      if m.get? 0 = some finish ∧ last = some finish then
        match p.find? text (place + 1) with
        | none => []
        | some m =>
          let finish := (m.get? 1).getD place
          m :: p.findAll text fuel finish (some finish)
      else m :: p.findAll text fuel finish (some finish)

end PatternProgram

end DatasetScript
