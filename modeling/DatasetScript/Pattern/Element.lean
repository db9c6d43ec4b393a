import DatasetScript.Pattern.Options
/-!
# Elements of patterns

The smallest parts of a pattern: single characters, escapes, and the classes with letters of their
own. Without the Unicode option only basic classes remain, and none may be negated.
-/

namespace DatasetScript

inductive Element where
  | literal (c : Char)
  | set (s : CharSet)
  | assertion (a : Assertion)

namespace Element

/-! ### Classes -/

def digitCodes : CodeSet := #[(0x30, 0x39)]

def spaceCodes : CodeSet := #[(0x09, 0x0D), (0x20, 0x20)]

def wordCodes : CodeSet := #[(0x30, 0x39), (0x41, 0x5A), (0x5F, 0x5F), (0x61, 0x7A)]

/-- A class of basic characters. -/
def basicClass? (o : Options) (codes : CodeSet) (folding : Folding) (negated : Bool) :
    Option CharSet :=
  if negated && !o.unicode then none else some (.property (.listed [] codes) folding negated)

/-- The class of a letter such as the `d` of `\d`, negated for a capital letter. -/
def letterClass? (o : Options) (letter : Char) : Option CharSet :=
  let negated := letter.isUpper
  let (p, codes) : Property × CodeSet := match letter.toLower with
    | 'd' => (.category "Nd", digitCodes)
    | 's' => (.blank, spaceCodes)
    | _ => (.word, wordCodes)
  if o.unicode then some (.property p .none negated) else basicClass? o codes .none negated

/-- The codes of the classes that are written by name within brackets. -/
def namedCodes? (name : List Char) : Option CodeSet :=
  match String.ofList name with
  | "alnum" => some #[(0x30, 0x39), (0x41, 0x5A), (0x61, 0x7A)]
  | "alpha" => some #[(0x41, 0x5A), (0x61, 0x7A)]
  | "ascii" => some #[(0x00, 0x7F)]
  | "blank" => some #[(0x09, 0x09), (0x20, 0x20)]
  | "cntrl" => some #[(0x00, 0x1F), (0x7F, 0x7F)]
  | "digit" => some digitCodes
  | "graph" => some #[(0x21, 0x7E)]
  | "lower" => some #[(0x61, 0x7A)]
  | "print" => some #[(0x20, 0x7E)]
  | "punct" => some #[(0x21, 0x2F), (0x3A, 0x40), (0x5B, 0x60), (0x7B, 0x7E)]
  | "space" => some spaceCodes
  | "upper" => some #[(0x41, 0x5A)]
  | "word" => some wordCodes
  | "xdigit" => some #[(0x30, 0x39), (0x41, 0x46), (0x61, 0x66)]
  | _ => none

/-- The class of a property, by one letter or by a text between braces. -/
def readProperty (o : Options) (negated : Bool) (cs : List Char) :
    Option (Element × List Char) := do
  let (named, rest) ← match o.skip cs with
    | [] => none
    | '\x7b' :: rest => do
      let (inside, rest) ← o.readBraced false rest
      some (Property.ofText? inside, rest)
    | c :: rest => some (Property.named? [c], rest)
  let p ← named
  if o.unicode then some (.set (.property p o.folding negated), rest) else none

/-- The dot, which stands for all characters but line marks. -/
def dot? (o : Options) : Option CharSet :=
  if !o.unicode then none
  else if o.dotAll then some (.property .any .none false)
  else if o.carriageReturn then
    some (.property (.listed [] #[(0x0A, 0x0A), (0x0D, 0x0D)]) .none true)
  else some (.property (.listed [] #[(0x0A, 0x0A)]) .none true)

/-! ### Character numbers -/

/-- The character with a number in hexadecimal digits. -/
def charOfHex? (ds : List Char) : Option Char :=
  if ds ≠ [] ∧ ds.all isHexDigit ∧ (hexNumber ds).isValidChar then
    some (Char.ofNat (hexNumber ds))
  else none

def readDigits (o : Options) : Nat → List Char → Option (List Char × List Char)
  | 0, cs => some ([], cs)
  | count + 1, cs =>
    match o.skip cs with
    | [] => none
    | c :: rest => (readDigits o count rest).map fun (ds, rest) => (c :: ds, rest)

/-- A character by its number, in braces or with a fixed count of digits. Two digits name a byte,
which without the Unicode option must be a basic character. -/
def readNumber (o : Options) (count : Nat) (cs : List Char) : Option (Element × List Char) :=
  match o.skip cs with
  | '\x7b' :: rest => do
    let (ds, rest) ← o.readBraced false rest
    return (.literal (← charOfHex? ds), rest)
  | cs => do
    let (ds, rest) ← readDigits o count cs
    let c ← charOfHex? ds
    if count = 2 ∧ !o.unicode ∧ c.toNat ≥ 0x80 then none else some (.literal c, rest)

/-! ### Escapes -/

/-- The assertion about words after `\b`, which may be named between braces. Braces that hold
something other than a word are left for a repetition. -/
def readBoundary (o : Options) (cs : List Char) : Option (Element × List Char) :=
  let plain := some (assertion (.boundary o.unicode), cs)
  match cs with
  | '\x7b' :: rest =>
    match o.skip rest with
    | [] => none
    | c :: _ =>
      if c.isAlpha || c == '-' then do
        let (name, rest) ← o.readBraced false rest
        let a ← match String.ofList name with
          | "start" => some (Assertion.wordStart o.unicode)
          | "end" => some (.wordEnd o.unicode)
          | "start-half" => some (.halfStart o.unicode)
          | "end-half" => some (.halfEnd o.unicode)
          | _ => none
        return (.assertion a, rest)
      else plain
  | _ => plain

/-- What a backslash and the characters after it stand for. -/
def readEscape (o : Options) : List Char → Option (Element × List Char)
  | [] => none
  | c :: rest =>
    match c with
    | 'x' => readNumber o 2 rest
    | 'u' => readNumber o 4 rest
    | 'U' => readNumber o 8 rest
    | 'p' => readProperty o false rest
    | 'P' => readProperty o true rest
    | 'a' => some (.literal '\x07', rest)
    | 'f' => some (.literal '\x0c', rest)
    | 't' => some (.literal '\t', rest)
    | 'n' => some (.literal '\n', rest)
    | 'r' => some (.literal '\r', rest)
    | 'v' => some (.literal '\x0b', rest)
    | 'A' => some (.assertion .textStart, rest)
    | 'z' => some (.assertion .textEnd, rest)
    | 'b' => readBoundary o rest
    | 'B' => some (.assertion (.noBoundary o.unicode), rest)
    | '<' => some (.assertion (.wordStart o.unicode), rest)
    | '>' => some (.assertion (.wordEnd o.unicode), rest)
    | c =>
      if ['d', 's', 'w', 'D', 'S', 'W'].contains c then do
        return (.set (← letterClass? o c), rest)
      else if c.toNat < 0x80 && !c.isAlphanum then some (.literal c, rest)
      else none

end Element

end DatasetScript
