import DatasetScript.Checking.Node
/-!
# Running scripts

A statement is checked against the bindings, resolved in them, and its value bound to its name. A
program runs statement by statement and stops at the first that fails, whose predecessors stay
bound.
-/

namespace DatasetScript

variable [PatternLanguage]

def Node.evaluate (node : Node) (b : Bindings) : Except Error Value := do
  (← node.check b.scope).resolve b.env

namespace Program

/-- Runs statements after a last value. -/
def runFrom (last : Value) : Program → Bindings → Bindings × Except Error Value
  | [], b => (b, .ok last)
  | statement :: rest, b =>
    match statement.expression.evaluate b with
    | .ok v => runFrom v rest (Assoc.insert b statement.name v)
    | .error e => (b, .error e)

/-- The bindings after a run, and the value of the last statement or the error of the one that
failed. An empty program has the value NULL. -/
def run (p : Program) (b : Bindings) : Bindings × Except Error Value := runFrom .null p b

end Program

end DatasetScript
