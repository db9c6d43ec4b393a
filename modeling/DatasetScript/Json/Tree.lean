import DatasetScript.Data.Assoc
/-!
# JSON trees

JSON texts as trees. Numbers without fraction and exponent are kept as integers. An object lists
its members as they come; its canonical form has every name once, sorted, with the last value.
-/

namespace DatasetScript

inductive Json where
  | null
  | bool (b : Bool)
  | integer (n : Int)
  | float (x : Float)
  | string (s : String)
  | array (items : List Json)
  | object (members : List (String × Json))

namespace Json

mutual

/-- The same tree with the members of every object sorted by name, the last of each name. -/
def canonical : Json → Json
  | array items => array (canonicalItems items)
  | object members => object (Assoc.sorted (canonicalMembers members))
  | atom => atom

def canonicalItems : List Json → List Json
  | [] => []
  | item :: rest => item.canonical :: canonicalItems rest

def canonicalMembers : List (String × Json) → List (String × Json)
  | [] => []
  | (name, item) :: rest => (name, item.canonical) :: canonicalMembers rest

end

mutual

def depth : Json → Nat
  | array items => depthOfItems items + 1
  | object members => depthOfMembers members + 1
  | _ => 0

def depthOfItems : List Json → Nat
  | [] => 0
  | item :: rest => max item.depth (depthOfItems rest)

def depthOfMembers : List (String × Json) → Nat
  | [] => 0
  | (_, item) :: rest => max item.depth (depthOfMembers rest)

end

def member? (j : Json) (name : String) : Option Json :=
  match j with
  | object members => Assoc.find? members name
  | _ => none

def string? : Json → Option String
  | string s => some s
  | _ => none

def array? : Json → Option (List Json)
  | array items => some items
  | _ => none

def integer? : Json → Option Int
  | integer n => some n
  | _ => none

def bool? : Json → Option Bool
  | bool b => some b
  | _ => none

end Json

end DatasetScript
