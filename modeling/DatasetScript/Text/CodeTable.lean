/-!
# Tables of code points

Sets and maps of code points in the forms in which property data is compact: ranges, runs that
share a label, and arithmetic runs that share a displacement. Each form has a reader for its
written table, with blanks or line ends between entries and numbers in base sixteen.
-/

namespace DatasetScript

def isHexDigit (c : Char) : Bool :=
  c.isDigit || ('a' ≤ c && c ≤ 'f') || ('A' ≤ c && c ≤ 'F')

/-- The number that hexadecimal digits stand for. -/
def hexNumber (ds : List Char) : Nat :=
  ds.foldl (fun n d =>
    16 * n + (if d.isDigit then d.toNat - '0'.toNat else d.toLower.toNat - 'a'.toNat + 10)) 0

/-- The words of a text, which blanks and line ends separate. -/
def words (text : String) : List (List Char) :=
  (((text.splitOn "\n").flatMap (·.splitOn " ")).map String.toList).filter (!·.isEmpty)

/-- Splits at the first occurrence of a mark. -/
def splitAtMark (mark : Char) (cs : List Char) : List Char × List Char :=
  (cs.takeWhile (· != mark), (cs.dropWhile (· != mark)).drop 1)

/-- A set of code points, as disjoint ranges in increasing order. -/
abbrev CodeSet := Array (Nat × Nat)

namespace CodeSet

def ofText (text : String) : CodeSet :=
  ((words text).map fun w =>
    let (low, high) := splitAtMark '-' w
    (hexNumber low, if high = [] then hexNumber low else hexNumber high)).toArray

def contains (set : CodeSet) (c : Nat) : Bool :=
  set.any fun (low, high) => low ≤ c && c ≤ high

end CodeSet

namespace CodeRuns

/-- Pairs up the start of a run and its label. -/
def pairs : List (List Char) → List (Nat × String)
  | start :: label :: rest => (hexNumber start, String.ofList label) :: pairs rest
  | _ => []

def ofText (text : String) : Array (Nat × String) := (pairs (words text)).toArray

/-- Halves the stretch of runs `low ≤ i < high` that may hold the code point. -/
def search (runs : Array (Nat × String)) (c low high : Nat) : Nat → Option String
  | 0 => none
  | fuel + 1 =>
    if high ≤ low + 1 then runs[low]?.map (·.2)
    else
      let middle := (low + high) / 2
      match runs[middle]? with
      | some (start, _) =>
        if start ≤ c then search runs c middle high fuel else search runs c low middle fuel
      | none => none

def label? (runs : Array (Nat × String)) (c : Nat) : Option String :=
  search runs c 0 runs.size (runs.size.log2 + 2)

end CodeRuns

/-- The code points `low, low + step, …, high`, each moved by the same displacement. -/
structure MapRun where
  low : Nat
  high : Nat
  step : Nat
  displacement : Int

namespace MapRun

def ofWord (w : List Char) : MapRun :=
  let isSign c := c == '+' || c == '~'
  let range := w.takeWhile (!isSign ·)
  let distance : Int := hexNumber ((w.dropWhile (!isSign ·)).drop 1)
  let (ends, stride) := splitAtMark '/' range
  let (low, high) := splitAtMark '-' ends
  { low := hexNumber low
    high := hexNumber high
    step := if stride = [] then 1 else hexNumber stride
    displacement := if w.contains '~' then -distance else distance }

def ofText (text : String) : List MapRun := (words text).map ofWord

def contains (run : MapRun) (c : Nat) : Bool :=
  run.low ≤ c && c ≤ run.high && (c - run.low) % run.step == 0

/-- The image of a code point, which is the point itself outside all runs. -/
def apply (runs : List MapRun) (c : Nat) : Nat :=
  match runs.find? (·.contains c) with
  | some run => ((c : Int) + run.displacement).toNat
  | none => c

/-- The code points of the runs that are mapped to `c`. -/
def preimages (runs : List MapRun) (c : Nat) : List Nat :=
  runs.filterMap fun run =>
    let source := ((c : Int) - run.displacement).toNat
    if run.contains source then some source else none

end MapRun

namespace Expansion

def ofText (text : String) : List (Nat × List Nat) :=
  (words text).map fun w =>
    let (source, images) := splitAtMark ':' w
    (hexNumber source, ((String.ofList images).splitOn ",").map (hexNumber ·.toList))

def find? (table : List (Nat × List Nat)) (c : Nat) : Option (List Nat) :=
  (table.find? (·.1 == c)).map (·.2)

end Expansion

end DatasetScript
