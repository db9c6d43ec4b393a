import DatasetScript.Json.Record
/-!
# Script settings

How scripts are run: which engine processes datasets, and whether statements are logged. What is
left out has its default.
-/

namespace DatasetScript

inductive EngineKind where
  | inMemory
  deriving DecidableEq

namespace EngineKind

def tag : EngineKind → String
  | inMemory => "in-memory"

def ofTag? : String → Option EngineKind
  | "in-memory" => some inMemory
  | _ => none

def ofJson? (j : Json) : Option EngineKind := j.plainVariant?.bind ofTag?

end EngineKind

structure ScriptConfig where
  engine : EngineKind
  logStatements : Bool
  deriving DecidableEq

namespace ScriptConfig

def standard : ScriptConfig := ⟨.inMemory, false⟩

/-- A field that may be missing but not null. -/
def fieldOr {α : Type} (default : α) (decode : Json → Option α) : Option Json → Option α
  | none => some default
  | some j => decode j

def ofJson? (j : Json) : Option ScriptConfig :=
  match j.record? ["engine", "log_statements"] with
  | some [engine, logStatements] => do
    return ⟨← fieldOr standard.engine EngineKind.ofJson? engine,
      ← fieldOr standard.logStatements Json.bool? logStatements⟩
  | _ => none

def toJson (c : ScriptConfig) : Json :=
  .object [("engine", .string c.engine.tag), ("log_statements", .bool c.logStatements)]

end ScriptConfig

end DatasetScript
