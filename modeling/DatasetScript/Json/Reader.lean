import DatasetScript.Json.Tree
import DatasetScript.Number.Reading
import DatasetScript.Text.CodeTable
/-!
# Reading JSON

Reads one JSON value, with nothing but blanks around it. Control characters in texts, surrogates
without a partner and numbers beyond the range of doubles are refused.
-/

namespace DatasetScript.Json

def isSpace (c : Char) : Bool := c == ' ' || c == '\n' || c == '\r' || c == '\t'

def skip (cs : List Char) : List Char := cs.dropWhile isSpace

/-! ### Texts -/

/-- The number of four hexadecimal digits. -/
def unit? (a b c d : Char) : Option Nat :=
  let ds := [a, b, c, d]
  if ds.all isHexDigit then some (hexNumber ds) else none

def isHighSurrogate (n : Nat) : Bool := 0xD800 ≤ n && n < 0xDC00

def isLowSurrogate (n : Nat) : Bool := 0xDC00 ≤ n && n < 0xE000

def joinSurrogates (high low : Nat) : Char :=
  Char.ofNat (0x10000 + (high - 0xD800) * 0x400 + (low - 0xDC00))

/-- The character that a letter after a backslash stands for. -/
def escaped? : Char → Option Char
  | '"' => some '"'
  | '\\' => some '\\'
  | '/' => some '/'
  | 'b' => some '\x08'
  | 'f' => some '\x0c'
  | 'n' => some '\n'
  | 'r' => some '\r'
  | 't' => some '\t'
  | _ => none

def readString (before : List Char) : List Char → Option (String × List Char)
  | [] => none
  | '"' :: rest => some (String.ofList before.reverse, rest)
  | '\\' :: 'u' :: a :: b :: c :: d :: rest =>
    match unit? a b c d with
    | none => none
    | some n =>
      if isHighSurrogate n then
        match rest with
        | '\\' :: 'u' :: e :: f :: g :: h :: rest =>
          match unit? e f g h with
          | some low =>
            if isLowSurrogate low then readString (joinSurrogates n low :: before) rest else none
          | none => none
        | _ => none
      else if isLowSurrogate n then none
      else readString (Char.ofNat n :: before) rest
  | '\\' :: c :: rest =>
    match escaped? c with
    | some e => readString (e :: before) rest
    | none => none
  | c :: rest => if c.toNat < 0x20 then none else readString (c :: before) rest

/-! ### Numbers -/

/-- A number with a fraction or an exponent, or one too large for an integer. -/
def float? (n : Numeral) : Option Json :=
  let x := n.toDecimal.toFloat
  if x.isFinite then some (.float x) else none

/-- Integers have at most 64 bits with or without sign. Minus zero is not an integer. -/
def ofNumeral? (n : Numeral) : Option Json :=
  match n.fraction, n.exponent with
  | none, none =>
    let magnitude := Numeral.ofDigits n.whole
    if n.negative then
      if magnitude ≠ 0 ∧ magnitude ≤ 9223372036854775808 then some (.integer (-magnitude))
      else float? n
    else if magnitude < 18446744073709551616 then some (.integer magnitude) else float? n
  | _, _ => float? n

/-- Reads the digits and marks of a number after its sign. -/
def readNumber (negative : Bool) (cs : List Char) : Option (Json × List Char) :=
  let isPart c := c.isDigit || c == '.' || c == 'e' || c == 'E' || c == '+' || c == '-'
  match Numeral.ofUnsigned? negative (cs.takeWhile isPart) with
  | none => none
  | some n =>
    let leadingZero := n.whole.head? == some '0' && n.whole.length != 1
    if n.whole = [] ∨ leadingZero ∨ n.fraction = some [] then none
    else (ofNumeral? n).map (·, cs.dropWhile isPart)

/-! ### Values -/

mutual

/-- Reads a value and gives what follows it. -/
def readValue : Nat → List Char → Option (Json × List Char)
  | 0, _ => none
  | fuel + 1, cs =>
    match skip cs with
    | 'n' :: 'u' :: 'l' :: 'l' :: rest => some (null, rest)
    | 't' :: 'r' :: 'u' :: 'e' :: rest => some (bool true, rest)
    | 'f' :: 'a' :: 'l' :: 's' :: 'e' :: rest => some (bool false, rest)
    | '"' :: rest => (readString [] rest).map fun (s, rest) => (string s, rest)
    | '[' :: rest =>
      match skip rest with
      | ']' :: rest => some (array [], rest)
      | rest => readItems fuel [] rest
    | '\x7b' :: rest =>
      match skip rest with
      | '\x7d' :: rest => some (object [], rest)
      | rest => readMembers fuel [] rest
    | '-' :: rest => readNumber true rest
    | rest => readNumber false rest

def readItems : Nat → List Json → List Char → Option (Json × List Char)
  | 0, _, _ => none
  | fuel + 1, before, cs =>
    match readValue fuel cs with
    | none => none
    | some (item, rest) =>
      match skip rest with
      | ',' :: rest => readItems fuel (item :: before) rest
      | ']' :: rest => some (array (item :: before).reverse, rest)
      | _ => none

def readMembers : Nat → List (String × Json) → List Char → Option (Json × List Char)
  | 0, _, _ => none
  | fuel + 1, before, cs =>
    match skip cs with
    | '"' :: rest =>
      match readString [] rest with
      | none => none
      | some (name, rest) =>
        match skip rest with
        | ':' :: rest =>
          match readValue fuel rest with
          | none => none
          | some (item, rest) =>
            match skip rest with
            | ',' :: rest => readMembers fuel ((name, item) :: before) rest
            | '\x7d' :: rest => some (object ((name, item) :: before).reverse, rest)
            | _ => none
        | _ => none
    | _ => none

end

/-- Reads a text. Every value takes at least one character, which bounds the number of steps. -/
def ofText? (text : String) : Option Json :=
  let cs := text.toList
  match readValue (2 * cs.length + 2) cs with
  | some (j, rest) => if (skip rest).isEmpty then some j else none
  | none => none

/-- The deepest nesting that is read from files. -/
def greatestDepth : Nat := 127

/-- Reads a text that is not nested too deeply. -/
def ofShallowText? (text : String) : Option Json :=
  (ofText? text).filter fun j => j.depth ≤ greatestDepth

end DatasetScript.Json
