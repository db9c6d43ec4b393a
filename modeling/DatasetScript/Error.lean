import DatasetScript.Data.DataType
import DatasetScript.Syntax.Operator
import DatasetScript.Text.Quoted
/-!
# Errors

What can go wrong while an expression is checked or resolved, and the message that reports it.
An error keeps the first source position that is attached to it.
-/

namespace DatasetScript

/-- Line and column in the source text, from one. -/
structure Position where
  line : UInt32
  column : UInt32
  deriving DecidableEq

def Position.text (p : Position) : String :=
  toString p.line.toNat ++ ":" ++ toString p.column.toNat

/-- One side of a type mismatch: a type or family of types, or the columns of a dataset. -/
inductive Shape where
  | type (t : Option DataType)
  | numeric
  | scalar
  | typed
  | columns (names : List String)
  | described (text : String)
  deriving DecidableEq

def Shape.text : Shape → String
  | type t => typeName t
  | numeric => "a numeric type"
  | scalar => "a scalar type"
  | typed => "a typed expression"
  | columns names => Quoted.quoteAll names
  | described text => text

inductive StructureFault where
  | duplicateComponent (name : String)
  | keysDiffer
  | rowWidth (cells components : Nat)
  | calculatedTwice (name : String)
  | renamedTwice (name : String)
  | renameOnto (source target : String)
  | branchesDiffer (elseBranch : String)
  | argumentDiffers (argument first : String)
  | operandDiffers (place : Nat)
  | emptyUnion
  | emptyJoin (kind : JoinKind)
  | aliasTwice (name : String)
  | keyDiffers (column operand : String) (role : Role) (type : DataType)
      (expectedRole : Role) (expectedType : DataType)
  | columnTwice (column operand : String)
  | aggregateWithoutColumn (name : String)
  | described (text : String)
  deriving DecidableEq

def StructureFault.text : StructureFault → String
  | duplicateComponent name => s!"duplicate component '{name}'"
  | keysDiffer => "type and role key sets are inconsistent"
  | rowWidth cells components =>
    s!"row has {cells} values but the structure has {components} components"
  | calculatedTwice name => s!"'{name}' is calculated more than once"
  | renamedTwice name => s!"'{name}' is renamed more than once"
  | renameOnto source target =>
    s!"cannot rename '{source}' to '{target}': column already exists"
  | branchesDiffer elseBranch =>
    s!"branches of a conditional have different structures ({elseBranch})"
  | argumentDiffers argument first => s!"{argument} is not compatible with {first}"
  | operandDiffers place =>
    s!"dataset at position {place} is not compatible with the first dataset"
  | emptyUnion => "union requires at least one dataset"
  | emptyJoin kind => s!"{kind.name} requires at least one dataset"
  | aliasTwice name => s!"alias '{name}' is used more than once"
  | keyDiffers column operand role type expectedRole expectedType =>
    s!"join component '{column}' of '{operand}' is {role.name} {type.name}, " ++
      s!"expected {expectedRole.name} {expectedType.name}"
  | columnTwice column operand =>
    s!"column '{column}' of '{operand}' is already defined by another dataset"
  | aggregateWithoutColumn name =>
    s!"aggregation '{name}' is not part of the result structure"
  | described text => text

inductive ResolutionFault where
  | unknownVariable (name : String)
  | unbound (name : String)
  | negativeLength (length : Int64)
  | occurrenceNotPositive (occurrence : Int64)
  | invalidPattern (pattern : String)
  | bindingsNotObject
  | binding (name reason : String)
  | unsupportedJson (text : String)
  | invalidStructure
  | rowsNotArray
  | rowNotObject
  | described (text : String)
  deriving DecidableEq

def ResolutionFault.text : ResolutionFault → String
  | unknownVariable name => s!"unknown variable '{name}'"
  | unbound name => s!"variable '{name}' is not bound"
  | negativeLength length => s!"substr length must not be negative, got {length.toInt}"
  | occurrenceNotPositive occurrence =>
    s!"instr occurrence must be positive, got {occurrence.toInt}"
  | invalidPattern pattern => s!"invalid pattern '{pattern}'"
  | bindingsNotObject => "bindings must be a JSON object"
  | binding name reason => s!"binding '{name}': {reason}"
  | unsupportedJson text => s!"unsupported JSON value {text}"
  | invalidStructure => "invalid structure"
  | rowsNotArray => "dataset rows must be an array"
  | rowNotObject => "dataset row must be a JSON object"
  | described text => text

inductive Arity where
  | exactly (n : Nat)
  | between (least most : Nat)
  | atLeast (n : Nat)
  deriving DecidableEq

def Arity.text : Arity → String
  | exactly n => toString n
  | between least most => s!"{least} to {most}"
  | atLeast n => s!"at least {n}"

def Arity.within (least most : Nat) : Arity :=
  if least = most then exactly least else between least most

/-- What an error is about. Contexts are the texts of the expressions concerned. -/
inductive Cause where
  | typeMismatch (expected actual : Shape) (context : String)
  | branchTypeMismatch (thenType elseType : DataType) (context : String)
  | structureMismatch (fault : StructureFault)
  | unknownColumn (name : String)
  | unsupportedOperator (name : String)
  | resolutionFailure (fault : ResolutionFault)
  | argumentCount (function : String) (expected : String) (actual : Nat)
  deriving DecidableEq

def Cause.text : Cause → String
  | typeMismatch expected actual context =>
    s!"Type mismatch in {context}: expected {expected.text}, got {actual.text}"
  | branchTypeMismatch thenType elseType context =>
    s!"Branch types differ in {context}: then is {thenType.name}, else is {elseType.name}"
  | structureMismatch fault => s!"Structure mismatch: {fault.text}"
  | unknownColumn name => s!"Unknown column '{name}'"
  | unsupportedOperator name => s!"Unsupported operator {name}"
  | resolutionFailure fault => s!"Resolution failure: {fault.text}"
  | argumentCount function expected actual =>
    s!"Function {function} expects {expected} arguments, got {actual}"

structure Error where
  cause : Cause
  position : Option Position
  deriving DecidableEq

namespace Error

/-- Attaches a position unless there is one. -/
def locate (p : Option Position) (e : Error) : Error :=
  { e with position := e.position <|> p }

def message (e : Error) : String :=
  e.cause.text ++ (e.position.map (" at " ++ ·.text)).getD ""

theorem locate_none (e : Error) : e.locate none = e := by
  cases e with
  | mk cause position => cases position <;> rfl

theorem locate_locate (p q : Option Position) (e : Error) :
    (e.locate p).locate q = e.locate (p <|> q) := by
  cases e with
  | mk cause position => cases position <;> cases p <;> rfl

theorem cause_locate (p : Option Position) (e : Error) : (e.locate p).cause = e.cause := rfl

/-! ### Errors without a position -/

def structureMismatch (fault : StructureFault) : Error := ⟨.structureMismatch fault, none⟩

def unknownColumn (name : String) : Error := ⟨.unknownColumn name, none⟩

def resolutionFailure (fault : ResolutionFault) : Error := ⟨.resolutionFailure fault, none⟩

def unsupportedOperator (name : String) : Error := ⟨.unsupportedOperator name, none⟩

def typeMismatch (expected actual : Shape) (context : String) : Error :=
  ⟨.typeMismatch expected actual context, none⟩

def argumentCount (function : String) (expected : Arity) (actual : Nat) : Error :=
  ⟨.argumentCount function expected.text actual, none⟩

@[simp] theorem structureMismatch_position (fault : StructureFault) :
    (structureMismatch fault).position = none := rfl

@[simp] theorem unknownColumn_position (name : String) : (unknownColumn name).position = none := rfl

@[simp] theorem resolutionFailure_position (fault : ResolutionFault) :
    (resolutionFailure fault).position = none := rfl

@[simp] theorem typeMismatch_position (expected actual : Shape) (context : String) :
    (typeMismatch expected actual context).position = none := rfl

end Error

def locate (p : Option Position) : Except Error α → Except Error α
  | .error e => .error (e.locate p)
  | .ok a => .ok a

@[simp] theorem locate_ok (p : Option Position) (a : α) :
    locate p (.ok a : Except Error α) = .ok a := rfl

@[simp] theorem locate_error (p : Option Position) (e : Error) :
    locate p (.error e : Except Error α) = .error (e.locate p) := rfl

theorem locate_none (x : Except Error α) : locate none x = x := by
  cases x with
  | error e => simp [Error.locate_none]
  | ok a => rfl

theorem locate_eq_ok_iff {p : Option Position} {x : Except Error α} {a : α} :
    locate p x = .ok a ↔ x = .ok a := by
  cases x <;> simp

end DatasetScript
