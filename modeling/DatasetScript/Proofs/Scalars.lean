import DatasetScript.Checking.Node
import DatasetScript.Proofs.Arguments
/-!
# Checks that never give a dataset

Operators and functions other than `union` give expressions for single values. Main statement:
`call_query` finds the one call that gives a dataset.
-/

namespace DatasetScript.Checking

/-- The check never succeeds with a dataset. -/
def Single (x : Except Error Expr) : Prop := Yields (fun e => ∀ q, e ≠ .query q) x

namespace Single

variable {α : Type} {t : ScalarType} {f : Formula t} {function : String} {args : List Operand}

theorem not_query {x : Except Error Expr} (h : Single x) (q : Query) : x ≠ .ok (.query q) :=
  fun made => h _ made q rfl

theorem error (e : Error) : Single (.error e) := Yields.error e

theorem scalar : Single (.ok (.scalar t f)) := Yields.ok nofun

theorem bind {x : Except Error α} {g : α → Except Error Expr} (each : ∀ a, Single (g a)) :
    Single (x >>= g) := Yields.bind_eq fun a _ => each a

theorem ofValues (t : DataType) (g : Env → Except Error Value) : Single (Expr.ofValues t g) := by
  cases t with
  | scalar t => exact scalar
  | dataset => exact error _

/-! ### Arguments -/

theorem withArguments {least most : Nat}
    {build : Needed least → (Nat → Option Operand) → Except Error Expr}
    (each : ∀ needed optional, Single (build needed optional)) :
    Single (withArguments function least most args build) :=
  withArguments_yields (fun _ _ => trivial) fun needed optional _ _ => each needed optional

theorem mapCall {read : Operand → Except Error (Formula t)} {u : ScalarType}
    {g : t.Carrier → Option u.Carrier} : Single (mapCall function args read u g) :=
  .withArguments fun _ _ => .bind fun _ => .scalar

theorem zipCall {read : Operand → Except Error (Formula t)} {u : ScalarType}
    {g : t.Carrier → t.Carrier → Option u.Carrier} : Single (zipCall function args read u g) :=
  .withArguments fun _ _ => .bind fun _ => .bind fun _ => .scalar

end Single

/-! ### Operators -/

theorem literal_single (l : Literal) : Single (.ok (literal l)) := by
  cases l <;> exact Yields.ok nofun

theorem combineNumbers_single (l r : Numeric) (onIntegers : Int64 → Int64 → Option Int64)
    (onReals : Float → Float → Option Float) :
    Single (.ok (combineNumbers l r onIntegers onReals)) := by
  unfold combineNumbers
  split <;> exact .scalar

theorem binary_single (op : BinaryOp) (left right : Operand) : Single (binary op left right) := by
  cases op with
  | logical op => exact .bind fun _ => .bind fun _ => .scalar
  | multiplicative op =>
    refine .bind fun l => .bind fun r => ?_
    cases op with
    | mul => exact combineNumbers_single _ _ _ _
    | div => exact .scalar
  | additive op =>
    refine .bind fun l => .bind fun r => ?_
    cases op with
    | concat => exact .bind fun _ => .bind fun _ => .scalar
    | plus => exact .bind fun _ => .bind fun _ => combineNumbers_single _ _ _ _
    | minus => exact .bind fun _ => .bind fun _ => combineNumbers_single _ _ _ _
  | comparison op =>
    refine .bind fun l => .bind fun r => ?_
    split
    · exact .scalar
    · exact .error _

theorem unary_single (op : UnaryOp) (operand : Operand) : Single (unary op operand) := by
  cases op with
  | not => exact .bind fun _ => .scalar
  | plus =>
    refine .bind fun n => ?_
    cases n <;> exact .scalar
  | minus =>
    refine .bind fun n => ?_
    cases n <;> exact .scalar

theorem membership_single (negated : Bool) (operand : Operand) (list : List Literal) :
    Single (membership negated operand list) := by
  refine .bind fun e => ?_
  dsimp only
  split
  · exact .error _
  · exact .scalar

/-! ### Functions -/

theorem textFunction_single [PatternLanguage] (function : String) (args : List Operand) :
    Single (textFunction function args) := by
  unfold textFunction
  split
  · exact .mapCall
  · exact .mapCall
  · exact .mapCall
  · exact .mapCall
  · exact .mapCall
  · exact .mapCall
  · exact .withArguments fun _ _ => .bind fun _ => .bind fun _ => .bind fun _ => .scalar
  · exact .withArguments fun _ _ => .bind fun _ => .bind fun _ => .bind fun _ => .scalar
  · exact .withArguments fun _ _ =>
      .bind fun _ => .bind fun _ => .bind fun _ => .bind fun _ => .scalar
  · exact .error _

theorem numericFunction_single (function : String) (args : List Operand) :
    Single (numericFunction function args) := by
  have whole (function : String) (rule : Float → Float) :
      Single (toWhole function args rule) := .withArguments fun _ _ => .bind fun n => by
    cases n <;> exact .scalar
  have rounded (function : String) (rule : Float → Float) :
      Single (roundCall function args rule) :=
    .withArguments fun _ _ => .bind fun _ => .bind fun _ => .scalar
  unfold numericFunction
  split
  · exact whole _ _
  · exact whole _ _
  · exact .withArguments fun _ _ => .bind fun n => by cases n <;> exact .scalar
  · exact .mapCall
  · exact .mapCall
  · exact .mapCall
  · exact rounded _ _
  · exact rounded _ _
  · exact .withArguments fun _ _ => .bind fun x => .bind fun y => by
      cases x <;> cases y <;> exact .scalar
  · exact .zipCall
  · exact .zipCall
  · exact .error _

theorem comparisonFunction_single [PatternLanguage] (function : String) (args : List Operand) :
    Single (comparisonFunction function args) := by
  unfold comparisonFunction
  split
  · exact .withArguments fun _ _ => .bind fun _ => .bind fun _ => .bind fun _ =>
      .bind fun _ => .bind fun _ => .scalar
  · exact .withArguments fun _ _ => .bind fun _ => .bind fun _ => .scalar
  · refine .withArguments fun _ _ => .bind fun e => ?_
    split
    · exact .error _
    · exact .scalar
  · exact .error _

theorem distanceFunction_single (function : String) (args : List Operand) :
    Single (distanceFunction function args) := by
  unfold distanceFunction
  split
  · exact .zipCall
  · exact .error _

theorem call_query [PatternLanguage] {family : FunctionFamily} {function : String}
    {args : List Operand} {q : Query} (h : call family function args = .ok (.query q)) :
    unionCall args = .ok (.query q) := by
  cases family with
  | string => exact ((textFunction_single _ _).not_query q h).elim
  | numeric => exact ((numericFunction_single _ _).not_query q h).elim
  | comparison => exact ((comparisonFunction_single _ _).not_query q h).elim
  | distance => exact ((distanceFunction_single _ _).not_query q h).elim
  | set =>
    change setFunction function args = .ok (.query q) at h
    unfold setFunction at h
    split at h
    · exact h
    · cases h

end DatasetScript.Checking
