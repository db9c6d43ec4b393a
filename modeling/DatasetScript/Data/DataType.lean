/-!
# Types and roles

Static types of expressions and columns, and the roles that columns play.
A value of type Integer may stand where a Number is expected; no other type
stands for another.
-/

namespace DatasetScript

inductive ScalarType where
  | integer
  | number
  | boolean
  | string
  deriving DecidableEq

inductive DataType where
  | scalar (t : ScalarType)
  | dataset
  deriving DecidableEq

namespace DataType

@[match_pattern] abbrev integer : DataType := .scalar .integer
@[match_pattern] abbrev number : DataType := .scalar .number
@[match_pattern] abbrev boolean : DataType := .scalar .boolean
@[match_pattern] abbrev string : DataType := .scalar .string

def name : DataType → String
  | integer => "Integer"
  | number => "Number"
  | boolean => "Boolean"
  | string => "String"
  | dataset => "Dataset"

def isNumeric : DataType → Bool
  | integer | number => true
  | _ => false

/-- Whether a value of the first type can be used where the second is expected. -/
def widensTo (actual target : DataType) : Bool :=
  actual == target || (actual == integer && target == number)

end DataType

/-- The name of a static type, which the NULL literal lacks. -/
def typeName (t : Option DataType) : String :=
  (t.map DataType.name).getD "Null"

/-- Whether values of two static types may be compared. The NULL literal compares with
everything, datasets with nothing else. -/
def comparable : Option DataType → Option DataType → Bool
  | none, _ | _, none => true
  | some .dataset, _ | _, some .dataset => false
  | some l, some r => l == r || (l.isNumeric && r.isNumeric)

inductive Role where
  | identifier
  | measure
  | attr
  deriving DecidableEq

def Role.name : Role → String
  | identifier => "Identifier"
  | measure => "Measure"
  | attr => "Attribute"

end DatasetScript
