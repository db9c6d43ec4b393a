import DatasetScript.Text.CaseTable
/-!
# Upper and lower case

Full case mapping of texts: a character may become several, and a capital sigma becomes a final
sigma at the end of a word.
-/

namespace DatasetScript

def upperChar (c : Char) : List Char :=
  match Expansion.find? CaseTable.expandedUpper c.toNat with
  | some images => images.map Char.ofNat
  | none => [Char.ofNat (MapRun.apply CaseTable.toUpper c.toNat)]

def lowerChar (c : Char) : List Char :=
  match Expansion.find? CaseTable.expandedLower c.toNat with
  | some images => images.map Char.ofNat
  | none => [Char.ofNat (MapRun.apply CaseTable.toLower c.toNat)]

def upperCase (s : List Char) : List Char := s.flatMap upperChar

/-- Whether the first character that case rules do not pass over has case. -/
def meetsCased (s : List Char) : Bool :=
  match s.dropWhile (CaseTable.caseIgnorable.contains ·.toNat) with
  | c :: _ => CaseTable.cased.contains c.toNat
  | [] => false

/-- Lower case of a text, given the characters before it, nearest first. -/
def lowerCaseAfter (before : List Char) : List Char → List Char
  | [] => []
  | c :: rest =>
    let image :=
      if c = 'Σ' then if meetsCased before && !meetsCased rest then ['ς'] else ['σ']
      else lowerChar c
    image ++ lowerCaseAfter (c :: before) rest

def lowerCase (s : List Char) : List Char := lowerCaseAfter [] s

/-- The characters that agree with `c` up to simple case folding. -/
def caseVariants (c : Char) : List Char :=
  let folded := MapRun.apply CaseTable.folding c.toNat
  (folded :: MapRun.preimages CaseTable.folding folded).map Char.ofNat

end DatasetScript
