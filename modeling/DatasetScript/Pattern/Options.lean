import DatasetScript.Pattern.Regex
/-!
# Options of patterns

The options that flags such as `(?i)` turn on and off from within a pattern, and the blanks and
comments that the verbose option allows between the parts of a pattern.
-/

namespace DatasetScript

structure Options where
  ignoreCase : Bool
  multiLine : Bool
  /-- the dot stands for line marks too -/
  dotAll : Bool
  /-- repetitions are lazy unless they are marked -/
  lazily : Bool
  unicode : Bool
  carriageReturn : Bool
  /-- blanks and comments do not count -/
  verbose : Bool

namespace Options

def standard : Options := ⟨false, false, false, false, true, false, false⟩

def folding (o : Options) : Folding :=
  if !o.ignoreCase then .none else if o.unicode then .simple else .ascii

/-- Turns the option of a flag on or off. -/
def put (o : Options) (flag : Char) (on : Bool) : Option Options :=
  match flag with
  | 'i' => some { o with ignoreCase := on }
  | 'm' => some { o with multiLine := on }
  | 's' => some { o with dotAll := on }
  | 'U' => some { o with lazily := on }
  | 'u' => some { o with unicode := on }
  | 'R' => some { o with carriageReturn := on }
  | 'x' => some { o with verbose := on }
  | _ => none

/-- Reads flags up to the mark that ends them, which is a colon or a closing parenthesis. Flags
after a hyphen turn options off; no flag may come twice. -/
def readFlags (o : Options) (on : Bool) (seen : List Char) :
    List Char → Option (Options × Char × List Char)
  | [] => none
  | c :: rest =>
    if c = ':' ∨ c = ')' then
      if seen.head? = some '-' ∨ (c = ')' ∧ seen = []) then none else some (o, c, rest)
    else if c ∈ seen then none
    else if c = '-' then readFlags o false (c :: seen) rest
    else
      match o.put c on with
      | some o => readFlags o on (c :: seen) rest
      | none => none

/-! ### Blanks and comments -/

/-- Drops blanks, and comments from a number sign to the end of the line. -/
def dropBlanks (inComment : Bool) : List Char → List Char
  | [] => []
  | c :: rest =>
    if inComment then dropBlanks (c != '\n') rest
    else if isBlank c then dropBlanks false rest
    else if c = '#' then dropBlanks true rest
    else c :: rest

def skip (o : Options) (cs : List Char) : List Char :=
  if o.verbose then dropBlanks false cs else cs

/-- The next character that counts. A number sign is passed over, but not the comment behind it. -/
def peek (o : Options) (cs : List Char) : Option Char :=
  if o.verbose then
    match cs.dropWhile isBlank with
    | '#' :: rest => (rest.dropWhile isBlank).head?
    | rest => rest.head?
  else cs.head?

/-- What counts up to a closing brace. -/
def readBraced (o : Options) (inComment : Bool) : List Char → Option (List Char × List Char)
  | [] => none
  | c :: rest =>
    if inComment then readBraced o (c != '\n') rest
    else if o.verbose && isBlank c then readBraced o false rest
    else if o.verbose && c == '#' then readBraced o true rest
    else if c = '\x7d' then some ([], rest)
    else (readBraced o false rest).map fun (inside, rest) => (c :: inside, rest)

end Options

end DatasetScript
