import DatasetScript.Text.CategoryTable
import DatasetScript.Text.ExtendTable
/-!
# Quoted texts

Texts between quotes in which every character can be seen: quotes, backslashes and line marks are
escaped by a letter, characters without a visible form of their own by their number.
-/

namespace DatasetScript.Quoted

/-- Characters that show nothing: controls, formats, unassigned ones and all separators but the
blank. -/
def isHidden (c : Char) : Bool :=
  let hidden := ["Cc", "Cf", "Cs", "Co", "Cn", "Zl", "Zp", "Zs"]
  c != ' ' && hidden.contains ((CodeRuns.label? generalCategories c.toNat).getD "Cn")

def escape (c : Char) : List Char :=
  if c = '\x00' then ['\\', '0']
  else if c = '\t' then ['\\', 't']
  else if c = '\r' then ['\\', 'r']
  else if c = '\n' then ['\\', 'n']
  else if c = '"' ∨ c = '\\' then ['\\', c]
  else if isHidden c || graphemeExtend.contains c.toNat then
    "\\u\x7b".toList ++ Nat.toDigits 16 c.toNat ++ ['\x7d']
  else [c]

def quote (s : String) : String :=
  String.ofList ('"' :: s.toList.flatMap escape ++ ['"'])

/-- Quoted texts in brackets, separated by commas. -/
def quoteAll (names : List String) : String :=
  "[" ++ ", ".intercalate (names.map quote) ++ "]"

end DatasetScript.Quoted
