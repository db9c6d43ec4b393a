import DatasetScript.CommandLine.Arguments
import DatasetScript.Interchange.Syntax
import DatasetScript.Interchange.Value
import DatasetScript.Json.Reader
import DatasetScript.Pattern.Matcher
import DatasetScript.Script.Engine
/-!
# Sessions

What the program does with the files that it is given: it reads the settings, the bindings and the
program, runs the program, and writes the bindings. The first failure ends the session.
-/

namespace DatasetScript

inductive SessionFailure where
  | unreadable (subject path : String)
  | invalidConfig
  | invalidBindingsText
  | invalidBindings (e : Error)
  | invalidProgram
  | evaluation (e : Error)
  deriving DecidableEq

namespace SessionFailure

def message : SessionFailure → String
  | unreadable subject path => s!"Failed to read {subject} {path}"
  | invalidConfig => "Invalid config"
  | invalidBindingsText => "Bindings file is not valid JSON"
  | invalidBindings _ => "Invalid bindings"
  | invalidProgram => "Invalid program"
  | evaluation _ => "Evaluation failed"

/-- What led to the failure, where there is more to say. -/
def cause? : SessionFailure → Option String
  | unreadable _ _ => some "No such file or directory (os error 2)"
  | invalidBindings e => some e.message
  | evaluation e => some e.message
  | _ => none

end SessionFailure

namespace Session

/-- The files that can be read, by path. -/
abbrev Files := String → Option String

def readFile (files : Files) (subject path : String) : Except SessionFailure String :=
  match files path with
  | some text => .ok text
  | none => .error (.unreadable subject path)

def readConfig (files : Files) : Option String → Except SessionFailure ScriptConfig
  | none => .ok .standard
  | some path => do
    let text ← readFile files "config" path
    match (Json.ofShallowText? text).bind ScriptConfig.ofJson? with
    | some config => .ok config
    | none => .error .invalidConfig

def readBindings (files : Files) : Option String → Except SessionFailure Bindings
  | none => .ok []
  | some path => do
    let text ← readFile files "bindings" path
    match Json.ofShallowText? text with
    | none => .error .invalidBindingsText
    | some j =>
      match Bindings.ofJson j.canonical with
      | .ok b => .ok b
      | .error e => .error (.invalidBindings e)

def readProgram (files : Files) (path : String) : Except SessionFailure Program := do
  let text ← readFile files "program" path
  match (Json.ofShallowText? text).bind Program.ofJson? with
  | some p => .ok p
  | none => .error .invalidProgram

def run (files : Files) (args : Arguments) : Except SessionFailure String := do
  let config ← readConfig files args.config
  let bindings ← readBindings files args.bindings
  let program ← readProgram files args.program
  let (engine, result) := ScriptEngine.eval ⟨config, bindings⟩ program
  match result with
  | .ok _ => .ok engine.bindings.toJson.pretty
  | .error e => .error (.evaluation e)

end Session

end DatasetScript
