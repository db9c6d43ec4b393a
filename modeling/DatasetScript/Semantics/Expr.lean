import DatasetScript.Data.Bindings
/-!
# Checked expressions

A checked expression has a static type and a meaning: what it resolves to in each environment. A
formula means a single value of one scalar type, none standing for NULL; a query means a dataset
of a structure known beforehand. The NULL literal has no type until it is used beside something
that has one.
-/

namespace DatasetScript

/-- A scalar expression of a known type. -/
def Formula (t : ScalarType) : Type := Env → Except Error (Option t.Carrier)

namespace Formula

variable {t u v : ScalarType}

def constant (payload : Option t.Carrier) : Formula t := fun _ => .ok payload

def null : Formula t := constant none

/-- Takes the payload of each value, which must be NULL or of the type. -/
def ofValues (t : ScalarType) (f : Env → Except Error Value) : Formula t := fun env => do
  t.payload (← f env)

def locate (p : Option Position) (f : Formula t) : Formula t := fun env =>
  DatasetScript.locate p (f env)

def resolve (f : Formula t) (env : Env) : Except Error Value := do
  return Value.ofOption t (← f env)

/-- Applies a function to the values other than NULL. -/
def map (f : Formula t) (g : t.Carrier → Option u.Carrier) : Formula u := fun env => do
  return (← f env).bind g

/-- Combines two values other than NULL. The second is not resolved if the first is NULL. -/
def zip (f : Formula t) (g : Formula u) (h : t.Carrier → u.Carrier → Option v.Carrier) :
    Formula v := fun env => do
  match ← f env with
  | none => return none
  | some a =>
    match ← g env with
    | none => return none
    | some b => return h a b

end Formula

structure Query where
  layout : Structure
  run : Env → Except Error Dataset

namespace Query

def constant (d : Dataset) : Query := ⟨d.layout, fun _ => .ok d⟩

def locate (p : Option Position) (q : Query) : Query :=
  ⟨q.layout, fun env => DatasetScript.locate p (q.run env)⟩

end Query

inductive Expr where
  | null
  | scalar (t : ScalarType) (f : Formula t)
  | query (q : Query)

namespace Expr

def type? : Expr → Option DataType
  | null => none
  | scalar t _ => some (.scalar t)
  | query _ => some .dataset

def resolve : Expr → Env → Except Error Value
  | null, _ => .ok .null
  | scalar _ f, env => f.resolve env
  | query q, env => do return .dataset (← q.run env)

theorem exists_payload {e : Expr} {t : ScalarType} {env : Env} {v : Value}
    (typed : e.type? = some (.scalar t)) (resolved : e.resolve env = .ok v) :
    ∃ payload, v = .ofOption t payload := by
  cases e with
  | null => cases typed
  | query q => cases typed
  | scalar u f =>
    cases typed
    change (f env >>= fun payload => pure (Value.ofOption t payload)) = .ok v at resolved
    cases given : f env with
    | error error =>
      rw [given] at resolved
      cases resolved
    | ok payload =>
      rw [given] at resolved
      cases resolved
      exact ⟨payload, rfl⟩

def locate (p : Option Position) : Expr → Expr
  | null => null
  | scalar t f => scalar t (f.locate p)
  | query q => query (q.locate p)

/-- A scalar expression from values that are checked as they come. -/
def ofValues (t : DataType) (f : Env → Except Error Value) : Except Error Expr :=
  match t with
  | .scalar t => .ok (.scalar t (.ofValues t f))
  | .dataset => .error (.typeMismatch .scalar (.type (some .dataset)) "with_type")

/-- A scalar expression from values that are cast as they come. -/
def ofCastValues (t : DataType) (f : Env → Except Error Value) : Except Error Expr :=
  ofValues t fun env => do (← f env).cast t

def typedNull (t : DataType) : Except Error Expr := ofValues t fun _ => .ok .null

def constant : Value → Expr
  | .null => null
  | .integer i => scalar .integer (.constant (some i))
  | .number x => scalar .number (.constant (some x))
  | .boolean b => scalar .boolean (.constant (some b))
  | .string s => scalar .string (.constant (some s))
  | .dataset d => query (.constant d)

def isNull : Expr → Bool
  | null => true
  | _ => false

def isNumeric (e : Expr) : Bool :=
  match e.type? with
  | some t => t.isNumeric
  | none => false

def isInteger (e : Expr) : Bool := e.type? == some .integer

end Expr

end DatasetScript
