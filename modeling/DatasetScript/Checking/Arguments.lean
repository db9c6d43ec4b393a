import DatasetScript.Semantics.Operand
/-!
# Arguments

Functions take a fixed number of arguments or leave out some at the end. A wrong number is refused
before any argument is asked for what it holds.
-/

namespace DatasetScript.Checking

/-- The arguments that a function needs. -/
abbrev Needed (least : Nat) : Type := Fin least → Operand

namespace Needed

variable {n : Nat}

def first (needed : Needed (n + 1)) : Operand := needed 0

def second (needed : Needed (n + 2)) : Operand := needed 1

def third (needed : Needed (n + 3)) : Operand := needed 2

end Needed

def refuseCount (function : String) (arity : Arity) (args : List Operand) :
    Except Error Expr :=
  .error (.argumentCount function arity args.length)

/-- Hands on the arguments that a function needs, and from there on those that may be left out,
unless there are fewer than the least number of them or more than the greatest. -/
def withArguments (function : String) (least most : Nat) (args : List Operand)
    (build : Needed least → (Nat → Option Operand) → Except Error Expr) :
    Except Error Expr :=
  if h : least ≤ args.length ∧ args.length ≤ most then
    build (fun i => args[i]) fun i => args[least + i]?
  else refuseCount function (.within least most) args

/-- A function of one argument, by how the argument is read and what is made of a value. -/
def mapCall {t : ScalarType} (function : String) (args : List Operand)
    (read : Operand → Except Error (Formula t)) (u : ScalarType) (g : t.Carrier → Option u.Carrier) :
    Except Error Expr :=
  withArguments function 1 1 args fun needed _ => do
    return .scalar u ((← read needed.first).map g)

/-- A function of two arguments that are read alike. -/
def zipCall {t : ScalarType} (function : String) (args : List Operand)
    (read : Operand → Except Error (Formula t)) (u : ScalarType)
    (g : t.Carrier → t.Carrier → Option u.Carrier) : Except Error Expr :=
  withArguments function 2 2 args fun needed _ => do
    let x ← read needed.first
    let y ← read needed.second
    return .scalar u (x.zip y g)

end DatasetScript.Checking
