import DatasetScript.Pattern.PropertyNames
import DatasetScript.Pattern.PropertyTable
import DatasetScript.Pattern.ScriptTable
import DatasetScript.Text.Blank
import DatasetScript.Text.CategoryTable
import DatasetScript.Text.ExtendTable
/-!
# Character properties

The properties of characters that patterns can ask for, and the names they are asked for by. Names
disregard case, blanks, hyphens, underscores and a leading "is".

These are not all the properties of Unicode. What asks for another one, such as an age or a break
property, is not a valid pattern here, and the extensions of a script are taken for the script.
-/

namespace DatasetScript

inductive Property where
  | any
  | assigned
  | ascii
  | category (value : String)
  | script (value : String)
  | blank
  | word
  /-- the characters of some categories and further ones -/
  | listed (categories : List String) (further : CodeSet)

namespace Property

def generalCategory (c : Char) : String := (CodeRuns.label? generalCategories c.toNat).getD "Cn"

/-- Whether a category belongs to a category or group of categories. -/
def categoryWithin (value category : String) : Bool :=
  value == category || value.toList == category.toList.take 1 ||
    (value == "LC" && ["Lu", "Ll", "Lt"].contains category)

def isAlphabetic (c : Char) : Bool :=
  categoryWithin "L" (generalCategory c) || generalCategory c == "Nl" ||
    PropertyTable.otherAlphabetic.contains c.toNat

/-- Letters, marks, decimal digits, connectors and joiners. -/
def isWord (c : Char) : Bool :=
  let category := generalCategory c
  isAlphabetic c || categoryWithin "M" category || category == "Nd" || category == "Pc" ||
    c.toNat == 0x200C || c.toNat == 0x200D

def holds (p : Property) (c : Char) : Bool :=
  match p with
  | any => true
  | assigned => generalCategory c != "Cn"
  | ascii => c.toNat < 0x80
  | category value => categoryWithin value (generalCategory c)
  | script value => (CodeRuns.label? scripts c.toNat).getD "Unknown" == value
  | blank => isBlank c
  | word => isWord c
  | listed categories further =>
    categories.any (categoryWithin · (generalCategory c)) || further.contains c.toNat

/-! ### Names -/

/-- The form in which names are compared. The short name of the category of comments is not a name
with a leading "is". -/
def plainName (name : List Char) : List Char :=
  let (isLed, rest) := match name.map Char.toLower with
    | 'i' :: 's' :: rest => (true, rest)
    | lower => (false, lower)
  let plain := rest.filter fun c => c.toNat < 0x80 && c != ' ' && c != '_' && c != '-'
  if isLed && plain == ['c'] then "isc".toList else plain

def listedNames : List (String × Property) :=
  let alphabetic := listed ["L", "Nl"] PropertyTable.otherAlphabetic
  let uppercase := listed ["Lu"] PropertyTable.otherUppercase
  let lowercase := listed ["Ll"] PropertyTable.otherLowercase
  let hexDigit := listed [] PropertyTable.hexDigit
  let ideographic := listed [] PropertyTable.ideographic
  let diacritic := listed [] PropertyTable.diacritic
  let quotationMark := listed [] PropertyTable.quotationMark
  let extender := listed [] graphemeExtend
  [("alphabetic", alphabetic), ("alpha", alphabetic), ("uppercase", uppercase),
    ("upper", uppercase), ("lowercase", lowercase), ("lower", lowercase), ("whitespace", blank),
    ("wspace", blank), ("space", blank), ("math", listed [] PropertyTable.math),
    ("dash", listed [] PropertyTable.dash), ("emoji", listed [] PropertyTable.emoji),
    ("hexdigit", hexDigit), ("hex", hexDigit), ("asciihexdigit", listed [] #[(0x30, 0x39),
    (0x41, 0x46), (0x61, 0x66)]), ("ahex", listed [] #[(0x30, 0x39), (0x41, 0x46), (0x61, 0x66)]),
    ("ideographic", ideographic), ("ideo", ideographic), ("diacritic", diacritic),
    ("dia", diacritic), ("quotationmark", quotationMark), ("qmark", quotationMark),
    ("graphemeextend", extender), ("grext", extender)]

def categoryNamed? (name : List Char) : Option Property :=
  if name = "any".toList then some any
  else if name = "assigned".toList then some assigned
  else if name = "ascii".toList then some ascii
  else (categoryNames.find? fun (known, _) => known.toList == name).map fun (_, v) => category v

def scriptNamed? (name : List Char) : Option Property :=
  (scriptNames.find? fun (known, _) => known.toList == name).map fun (_, v) => script v

def listedNamed? (name : List Char) : Option Property :=
  (listedNames.find? fun (known, _) => known.toList == name).map (·.2)

/-- The property with a name of its own. -/
def named? (name : List Char) : Option Property :=
  let name := plainName name
  listedNamed? name <|> categoryNamed? name <|> scriptNamed? name

/-- The property of having a value for a named property. -/
def valued? (name value : List Char) : Option Property :=
  let name := String.ofList (plainName name)
  if name == "generalcategory" || name == "gc" then categoryNamed? (plainName value)
  else if name == "script" || name == "sc" || name == "scriptextensions" || name == "scx" then
    scriptNamed? (plainName value)
  else none

/-- What comes before and after the first occurrence of a mark. -/
def splitAt? (mark : List Char) (before : List Char) : List Char → Option (List Char × List Char)
  | [] => none
  | c :: rest =>
    if mark.isPrefixOf (c :: rest) then some (before.reverse, (c :: rest).drop mark.length)
    else splitAt? mark (c :: before) rest

/-- The property that the text between braces asks for: a name, or a name and a value. -/
def ofText? (text : List Char) : Option Property :=
  match splitAt? ['!', '='] [] text <|> splitAt? [':'] [] text <|> splitAt? ['='] [] text with
  | some (name, value) => valued? name value
  | none => named? text

end Property

end DatasetScript
