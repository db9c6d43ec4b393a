import DatasetScript.Data.Structure
import DatasetScript.Number.Layout
/-!
# Values

The values that expressions resolve to: NULL, single values of four types, and datasets. A dataset
is a structure with rows; every row carries the structure that its cells are laid out by, which
need not order the columns as the dataset does.
-/

namespace DatasetScript

mutual

inductive Value where
  | null
  | integer (i : Int64)
  | number (x : Float)
  | boolean (b : Bool)
  | string (s : String)
  | dataset (d : Dataset)

/-- A row of cells, in the order of its own layout. -/
structure Row where
  layout : Structure
  cells : List Value

structure Dataset where
  layout : Structure
  rows : List Row

end

namespace Value

/-- The type of a value, which NULL lacks. -/
def type? : Value → Option DataType
  | null => none
  | integer _ => some .integer
  | number _ => some .number
  | boolean _ => some .boolean
  | string _ => some .string
  | dataset _ => some .dataset

def isNull : Value → Bool
  | null => true
  | _ => false

def typeName (v : Value) : String := DatasetScript.typeName v.type?

/-- Whether a value may stand in a column of the given type. -/
def fits (v : Value) (t : DataType) : Bool :=
  match v.type? with
  | none => true
  | some actual => actual.widensTo t

/-- The number that an integer or real value stands for. -/
def asNumber? : Value → Option Float
  | integer i => some i.toFloat
  | number x => some x
  | _ => none

/-- Brings a value to a type: integers widen to numbers, NULL belongs to every type. -/
def cast (t : DataType) : Value → Except Error Value
  | null => .ok null
  | v =>
    match v, t with
    | integer i, .number => .ok (number i.toFloat)
    | v, t =>
      if v.type? = some t then .ok v
      else .error (.typeMismatch (.type (some t)) (.type v.type?) "cast")

def compareNumbers (x y : Float) : Option Ordering :=
  if x < y then some .lt
  else if x == y then some .eq
  else if y < x then some .gt
  else none

/-- Orders two values. Integers and numbers compare by their numeric value, texts by code points,
false before true; NULL, NaN and values of other types are not ordered. -/
def compare? : Value → Value → Option Ordering
  | integer a, integer b => some (compare a.toInt b.toInt)
  | string a, string b => some (compare a b)
  | boolean a, boolean b => some (compare a.toNat b.toNat)
  | a, b =>
    match a.asNumber?, b.asNumber? with
    | some x, some y => compareNumbers x y
    | _, _ => none

def text : Value → String
  | null => "null"
  | integer i => toString i.toInt
  | number x => NumberLayout.message.write x
  | boolean b => if b then "true" else "false"
  | string s => "\"" ++ s ++ "\""
  | dataset d => s!"dataset({d.rows.length} rows)"

end Value

/-! ### Payloads -/

abbrev ScalarType.Carrier : ScalarType → Type
  | .integer => Int64
  | .number => Float
  | .boolean => Bool
  | .string => String

def Value.scalar : (t : ScalarType) → t.Carrier → Value
  | .integer, i => .integer i
  | .number, x => .number x
  | .boolean, b => .boolean b
  | .string, s => .string s

def Value.ofOption (t : ScalarType) (payload : Option t.Carrier) : Value :=
  (payload.map (Value.scalar t)).getD .null

/-- The payload of a value that may stand for the type: none for NULL, a widened one for an
integer that stands for a number. -/
def ScalarType.payload (t : ScalarType) (v : Value) : Except Error (Option t.Carrier) :=
  match t, v with
  | _, .null => .ok none
  | .integer, .integer i => .ok (some i)
  | .number, .number x => .ok (some x)
  | .number, .integer i => .ok (some i.toFloat)
  | .boolean, .boolean b => .ok (some b)
  | .string, .string s => .ok (some s)
  | t, v => .error (.typeMismatch (.type (some (.scalar t))) (.type v.type?) "resolution")

end DatasetScript
