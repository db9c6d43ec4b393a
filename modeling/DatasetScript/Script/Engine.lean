import DatasetScript.Script.Config
import DatasetScript.Script.Run
/-!
# Script engines

An engine keeps bindings from program to program. Programs can also be run on bindings of their
own, which leaves those of the engine as they are. An engine serves one call after the other.
-/

namespace DatasetScript

structure ScriptEngine where
  config : ScriptConfig
  bindings : Bindings

namespace ScriptEngine

def get? (engine : ScriptEngine) (name : String) : Option Value :=
  Assoc.find? engine.bindings name

def put (engine : ScriptEngine) (name : String) (v : Value) : ScriptEngine :=
  { engine with bindings := Assoc.insert engine.bindings name v }

variable [PatternLanguage]

/-- Runs a program on the bindings of the engine. -/
def eval (engine : ScriptEngine) (p : Program) : ScriptEngine × Except Error Value :=
  let (bindings, result) := p.run engine.bindings
  ({ engine with bindings }, result)

/-- Runs a program on bindings of its own. -/
def evalWith (_engine : ScriptEngine) (p : Program) (b : Bindings) :
    Bindings × Except Error Value :=
  p.run b

end ScriptEngine

/-! ### Calls -/

inductive EngineCall where
  | get (name : String)
  | put (name : String) (v : Value)
  | bindings
  | eval (p : Program)
  | evalWith (p : Program) (b : Bindings)

inductive EngineAnswer where
  | done
  | found (v : Option Value)
  | bindings (b : Bindings)
  | result (r : Except Error Value)
  /-- the bindings that the caller gave, as the program leaves them, and its result -/
  | ran (b : Bindings) (r : Except Error Value)

namespace ScriptEngine

variable [PatternLanguage]

/-- The engine after a call, and what it answers. -/
def serve (engine : ScriptEngine) : EngineCall → ScriptEngine × EngineAnswer
  | .get name => (engine, .found (engine.get? name))
  | .put name v => (engine.put name v, .done)
  | .bindings => (engine, .bindings engine.bindings)
  | .eval p =>
    let (engine, result) := engine.eval p
    (engine, .result result)
  | .evalWith p b =>
    let (b, result) := engine.evalWith p b
    (engine, .ran b result)

/-- The engine after a list of calls, and the answer to each. -/
def serveAll (engine : ScriptEngine) : List EngineCall → ScriptEngine × List EngineAnswer
  | [] => (engine, [])
  | call :: rest =>
    let (next, answer) := engine.serve call
    let (last, answers) := next.serveAll rest
    (last, answer :: answers)

end ScriptEngine

end DatasetScript
