/-!
# Command-line arguments

The options of the program. Options with a value take it from the next argument or attached to
themselves, one-letter options may be joined, and no option may come twice.
-/

namespace DatasetScript

inductive Parameter where
  | program
  | bindings
  | config
  deriving DecidableEq

def Parameter.ofLong? : String → Option Parameter
  | "program" => some program
  | "bindings" => some bindings
  | "config" => some config
  | _ => none

def Parameter.ofShort? : Char → Option Parameter
  | 'p' => some program
  | 'b' => some bindings
  | 'c' => some config
  | _ => none

structure GivenOptions where
  values : List (Parameter × String)
  debug : Bool

namespace GivenOptions

def none : GivenOptions := ⟨[], false⟩

def value? (g : GivenOptions) (p : Parameter) : Option String :=
  (g.values.find? (·.1 == p)).map (·.2)

/-- Gives an option its value, which must not be empty. -/
def put? (g : GivenOptions) (p : Parameter) (value : String) : Option GivenOptions :=
  if value.isEmpty || (g.value? p).isSome then Option.none
  else some { g with values := (p, value) :: g.values }

def setDebug? (g : GivenOptions) : Option GivenOptions :=
  if g.debug then Option.none else some { g with debug := true }

/-- Reads joined one-letter options. An option with a value takes what is left as its value, after
an equals sign if there is one, and waits for the next argument if nothing is left. -/
def readLetters (g : GivenOptions) : List Char → Option (GivenOptions × Option Parameter)
  | [] => some (g, Option.none)
  | c :: rest =>
    if c = 'd' then
      match g.setDebug? with
      | some g => readLetters g rest
      | Option.none => Option.none
    else
      match Parameter.ofShort? c, rest with
      | Option.none, _ => Option.none
      | some p, [] => some (g, some p)
      | some p, '=' :: value => (g.put? p (String.ofList value)).map (·, Option.none)
      | some p, value => (g.put? p (String.ofList value)).map (·, Option.none)

/-- Reads an option by its long name, with a value behind an equals sign or in the next argument. -/
def readLong (g : GivenOptions) (text : List Char) : Option (GivenOptions × Option Parameter) :=
  let name := String.ofList (text.takeWhile (· != '='))
  match text.dropWhile (· != '='), Parameter.ofLong? name with
  | [], some p => some (g, some p)
  | _ :: value, some p => (g.put? p (String.ofList value)).map (·, Option.none)
  | [], Option.none => if name = "debug" then g.setDebug?.map (·, Option.none) else Option.none
  | _, Option.none => Option.none

/-- Reads an argument that is not the value of the option before it. -/
def readArgument (g : GivenOptions) (text : List Char) :
    Option (GivenOptions × Option Parameter) :=
  match text with
  | '-' :: '-' :: rest => g.readLong rest
  | '-' :: c :: rest => g.readLetters (c :: rest)
  | _ => Option.none

/-- Whether an argument may be a value, which options themselves may not. -/
def isValue : List Char → Bool
  | '-' :: _ :: _ => false
  | _ => true

/-- Reads all arguments, of which an option may be waiting for the first. Two hyphens end the
options, and nothing may follow them. -/
def readAll (g : GivenOptions) (waiting : Option Parameter) :
    List String → Option GivenOptions
  | [] => if waiting.isSome then Option.none else some g
  | text :: rest =>
    match waiting with
    | some p =>
      if isValue text.toList then
        match g.put? p text with
        | some g => g.readAll Option.none rest
        | Option.none => Option.none
      else Option.none
    | Option.none =>
      if text = "--" then if rest.isEmpty then some g else Option.none
      else
        match g.readArgument text.toList with
        | some (g, waiting) => g.readAll waiting rest
        | Option.none => Option.none

end GivenOptions

structure Arguments where
  program : String
  bindings : Option String
  config : Option String
  debug : Bool

def Arguments.ofList? (args : List String) : Option Arguments := do
  let g ← GivenOptions.none.readAll none args
  return ⟨← g.value? .program, g.value? .bindings, g.value? .config, g.debug⟩

end DatasetScript
