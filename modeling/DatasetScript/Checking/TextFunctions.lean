import DatasetScript.Checking.Arguments
import DatasetScript.Pattern
import DatasetScript.Text.Blank
import DatasetScript.Text.Casing
import DatasetScript.Text.EditDistance
import DatasetScript.Text.Position
/-!
# Functions on texts

Trimming and casing, cutting and searching by position, and matching and replacing by pattern.
Every argument of a function is resolved before NULL among them makes the result NULL.
-/

namespace DatasetScript.Checking

def textMap (function : String) (args : List Operand) (g : List Char → List Char) :
    Except Error Expr :=
  mapCall function args (Operand.formula .string) .string fun s => some (String.ofList (g s.toList))

def lengthOf (args : List Operand) : Except Error Expr :=
  mapCall "length" args (Operand.formula .string) .integer fun s => some (.ofNat s.length)

/-! ### Positions -/

/-- At most `length` characters of a text from a position on. -/
def cut (s : String) (start length : Int64) : Except Error String :=
  if length.toInt < 0 then .error (.resolutionFailure (.negativeLength length))
  else .ok (String.ofList (substr s.toList start.toInt length.toInt.toNat))

/-- The position of an occurrence of a text, or zero. -/
def locateText (s pattern : String) (start occurrence : Int64) : Except Error Int64 :=
  if occurrence.toInt < 1 then .error (.resolutionFailure (.occurrenceNotPositive occurrence))
  else .ok (.ofNat (instr s.toList pattern.toList start.toInt occurrence.toInt.toNat))

def substrCall (args : List Operand) : Except Error Expr :=
  withArguments "substr" 1 3 args fun needed optional => do
    let s ← needed.first.formula .string
    let start ← Operand.formulaOr .integer 1 (optional 0)
    let length ← Operand.formulaOr .integer Int64.maxValue (optional 1)
    let resolved : Formula .string := fun env => do
      let s ← s env
      let start ← start env
      let length ← length env
      match s, start, length with
      | some s, some start, some length => return some (← cut s start length)
      | _, _, _ => return none
    return .scalar .string resolved

def instrCall (args : List Operand) : Except Error Expr :=
  withArguments "instr" 2 4 args fun needed optional => do
    let s ← needed.first.formula .string
    let pattern ← needed.second.formula .string
    let start ← Operand.formulaOr .integer 1 (optional 0)
    let occurrence ← Operand.formulaOr .integer 1 (optional 1)
    let resolved : Formula .integer := fun env => do
      let s ← s env
      let pattern ← pattern env
      let start ← start env
      let occurrence ← occurrence env
      match s, pattern, start, occurrence with
      | some s, some pattern, some start, some occurrence =>
        return some (← locateText s pattern start occurrence)
      | _, _, _, _ => return none
    return .scalar .integer resolved

/-! ### Patterns -/

variable [PatternLanguage]

/-- Reads a pattern, extended by `extend` beforehand. The error names the pattern as it is given. -/
def readPattern (extend : String → String) (text : String) : Except Error Pattern :=
  match PatternLanguage.compile? (extend text) with
  | some p => .ok p
  | none => .error (.resolutionFailure (.invalidPattern text))

/-- Reads the pattern that a formula resolves to. -/
def compilePattern (extend : String → String) (f : Formula .string) (env : Env) :
    Except Error (Option Pattern) := do
  let given : Option String ← f env
  match given with
  | none => return none
  | some text => return some (← readPattern extend text)

/-- The pattern that an argument stands for. A text literal is read once, when the call is checked,
any other pattern each time that it is resolved. An invalid one fails when it is resolved, either
way. -/
def patternOf (extend : String → String) (node : Node) (f : Formula .string) :
    Env → Except Error (Option Pattern) :=
  match node.textLiteral? with
  | some text =>
    let read := readPattern extend text
    fun _ => read.map some
  | none => compilePattern extend f

def replaceCall (args : List Operand) : Except Error Expr :=
  withArguments "replace" 2 3 args fun needed optional => do
    let s ← needed.first.formula .string
    let pattern := patternOf id needed.second.node (← needed.second.formula .string)
    let replacement ← Operand.formulaOr .string "" (optional 0)
    let resolved : Formula .string := fun env => do
      let s ← s env
      let p ← pattern env
      let replacement ← replacement env
      match s, p, replacement with
      | some s, some p, some replacement => return some (p.replaceAll s replacement)
      | _, _, _ => return none
    return .scalar .string resolved

/-- Whether a pattern matches the whole of a text. -/
def matchCall (args : List Operand) : Except Error Expr :=
  withArguments "match_characters" 2 2 args fun needed _ => do
    let s ← needed.first.formula .string
    let pattern := patternOf Pattern.wholeText needed.second.node (← needed.second.formula .string)
    let resolved : Formula .boolean := fun env => do
      let s ← s env
      let p ← pattern env
      match s, p with
      | some s, some p => return some (p.isMatch s)
      | _, _ => return none
    return .scalar .boolean resolved

/-! ### Distances -/

def levenshteinCall (args : List Operand) : Except Error Expr :=
  zipCall "levenshtein" args (Operand.formula .string) .integer fun s t =>
    some (.ofNat (levenshtein s.toList t.toList))

def textFunction (function : String) (args : List Operand) : Except Error Expr :=
  match function with
  | "trim" => textMap function args trim
  | "ltrim" => textMap function args trimLeft
  | "rtrim" => textMap function args trimRight
  | "upper" => textMap function args upperCase
  | "lower" => textMap function args lowerCase
  | "length" => lengthOf args
  | "substr" => substrCall args
  | "replace" => replaceCall args
  | "instr" => instrCall args
  | _ => .error (.unsupportedOperator function)

def distanceFunction (function : String) (args : List Operand) : Except Error Expr :=
  match function with
  | "levenshtein" => levenshteinCall args
  | _ => .error (.unsupportedOperator function)

end DatasetScript.Checking
