import DatasetScript.Pattern.Regex
/-!
# Programs

A regular expression as a graph of steps. Each step takes a character, checks a place, records a
place or tries two ways in order. Graphs are laid out from the end: an expression is added in
front of the step that follows it.
-/

namespace DatasetScript

inductive Step where
  /-- the whole expression has matched -/
  | accept
  | literal (c : Char) (folding : Folding) (next : Nat)
  | set (s : CharSet) (next : Nat)
  | assertion (a : Assertion) (next : Nat)
  /-- records the place in a slot -/
  | save (slot next : Nat)
  | fork (first second : Nat)

abbrev Graph := Array Step

namespace Graph

def add (g : Graph) (s : Step) : Nat × Graph := (g.size, g.push s)

/-- Adds a fork that prefers to go on if it is greedy. -/
def fork (greedy : Bool) (onward exit : Nat) : Step :=
  if greedy then .fork onward exit else .fork exit onward

/-- Adds a loop around an expression, entered at the expression. -/
def addLoop (body : Nat → Graph → Nat × Graph) (greedy : Bool) (next : Nat) (g : Graph) :
    Nat × Graph :=
  let (back, g) := g.add .accept
  let (first, g) := body back g
  (first, g.set! back (fork greedy first next))

/-- Adds any number of repetitions. Where the expression may match nothing, the loop is entered
at the expression, and a fork in front of it skips the loop. -/
def addStar (body : Nat → Graph → Nat × Graph) (nullable greedy : Bool) (next : Nat) (g : Graph) :
    Nat × Graph :=
  if nullable then
    let (first, g) := addLoop body greedy next g
    g.add (fork greedy first next)
  else
    let (back, g) := g.add .accept
    let (first, g) := body back g
    (back, g.set! back (fork greedy first next))

/-- Adds a number of copies in a row. -/
def addCopies (body : Nat → Graph → Nat × Graph) (next : Nat) (g : Graph) : Nat → Nat × Graph
  | 0 => (next, g)
  | count + 1 =>
    let (first, g) := body next g
    addCopies body first g count

/-- Adds up to a number of copies in a row. Each may be skipped, together with those behind it. -/
def addOptional (body : Nat → Graph → Nat × Graph) (greedy : Bool) (exit next : Nat) (g : Graph) :
    Nat → Nat × Graph
  | 0 => (next, g)
  | count + 1 =>
    let (first, g) := body next g
    let (entry, g) := g.add (fork greedy first exit)
    addOptional body greedy exit entry g count

/-- Adds a repetition, of an expression that may match nothing. -/
def addRepetition (body : Nat → Graph → Nat × Graph) (nullable greedy : Bool) (least : Nat)
    (most : Option Nat) (next : Nat) (g : Graph) : Nat × Graph :=
  match least, most with
  | 0, none => addStar body nullable greedy next g
  | least + 1, none =>
    let (entry, g) := addLoop body greedy next g
    addCopies body entry g least
  | least, some most =>
    let (entry, g) := addOptional body greedy next next g (most - least)
    addCopies body entry g least

end Graph

mutual

/-- Adds an expression in front of a step and gives the place where it begins. An expression that
matches no characters is repeated once at most. -/
def Regex.compile : Regex → Nat → Graph → Nat × Graph
  | .empty => fun next g => (next, g)
  | .literal c folding => fun next g => g.add (.literal c folding next)
  | .set s => fun next g => g.add (.set s next)
  | .assertion a => fun next g => g.add (.assertion a next)
  | .repetition least most greedy body => fun next g =>
    let (least, most) :=
      if body.isWidthless then (min least 1, some (min (most.getD 1) 1)) else (least, most)
    Graph.addRepetition body.compile body.isNullable greedy least most next g
  | .group none body => body.compile
  | .group (some number) body => fun next g =>
    let (close, g) := g.add (.save (2 * number + 1) next)
    let (first, g) := body.compile close g
    g.add (.save (2 * number) first)
  | .concat parts => Regex.compileAll parts
  | .alternation branches => Regex.compileBranches branches

def Regex.compileAll : List Regex → Nat → Graph → Nat × Graph
  | [] => fun next g => (next, g)
  | r :: rest => fun next g =>
    let (entry, g) := Regex.compileAll rest next g
    r.compile entry g

def Regex.compileBranches : List Regex → Nat → Graph → Nat × Graph
  | [] => fun next g => (next, g)
  | [r] => r.compile
  | r :: rest => fun next g =>
    let (other, g) := Regex.compileBranches rest next g
    let (first, g) := r.compile next g
    g.add (.fork first other)

end

/-- A graph with the step at which it begins. -/
structure PatternProgram where
  graph : Graph
  entry : Nat

/-- The program of an expression, which records where it begins and ends. -/
def Regex.program (r : Regex) : PatternProgram :=
  let (entry, graph) := (Regex.group (some 0) r).compile 0 #[.accept]
  ⟨graph, entry⟩

end DatasetScript
