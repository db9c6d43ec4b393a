import DatasetScript.Proofs.Tokens
import Mathlib.Data.List.Basic
/-!
# Reading trees

A convention says how tightly operators bind. The text of a tree, as a list of tokens, is read by a
convention with some fuel, and what is read does not change with more of it. Main statements:
`Follows.stops` on the tokens that end an expression, and `readMany_list` on lists of items.
-/

namespace DatasetScript

/-! ### Conventions -/

/-- Operators that stand between two operands, or behind one. -/
inductive Infix where
  | binary (op : BinaryOp)
  | member (negated : Bool)
  deriving DecidableEq

def Infix.symbol : Infix → String
  | binary op => op.symbol
  | member negated => if negated then "not_in" else "in"

/-- How tightly operators bind. Operators of one level are taken from left to right. -/
structure Convention where
  level : Infix → Nat
  level_pos : ∀ op, 0 < level op

def infixes : List Infix :=
  [.binary (.logical .and), .binary (.logical .or), .binary (.logical .xor),
    .binary (.multiplicative .mul), .binary (.multiplicative .div), .binary (.additive .plus),
    .binary (.additive .minus), .binary (.additive .concat), .binary (.comparison .eq),
    .binary (.comparison .ne), .binary (.comparison .lt), .binary (.comparison .le),
    .binary (.comparison .gt), .binary (.comparison .ge), .member false, .member true]

def JoinKind.named? (w : String) : Option JoinKind :=
  [left, inner, full, cross].find? (·.name = w)

def AggregateFunction.named? (w : String) : Option AggregateFunction :=
  [count, sum, avg, min, max].find? (·.name = w)

/-! ### Readers -/

/-- Reads something from the front of the tokens, if that is there. -/
abbrev Reader (α : Type) := List Token → Option (α × List Token)

def expect (t : Token) : List Token → Option (List Token)
  | [] => none
  | s :: rest => if s = t then some rest else none

def infix? : Reader Infix
  | .word w :: rest => (infixes.find? (·.symbol = w)).map (·, rest)
  | _ => none

/-- Signs and the negation. -/
def prefix? : Reader UnaryOp
  | .word w :: rest =>
    if w = "+" then some (.plus, rest)
    else if w = "-" then some (.minus, rest)
    else if w = "not" then some (.not, rest)
    else none
  | _ => none

/-- Items with commas between them, as many as there are. -/
def readMany {α : Type} (item : Reader α) : Nat → Reader (List α)
  | 0, _ => none
  | f + 1, ts =>
    match item ts with
    | none => some ([], ts)
    | some (a, ts) =>
      match expect (.mark ',') ts with
      | none => some ([a], ts)
      | some rest => do
        let (as, rest) ← readMany item f rest
        return (a :: as, rest)

/-- Words that are not names. -/
def reserved : List String :=
  ["null", "true", "false", "not", "if", "using", "group", "left_join", "inner_join", "full_join",
    "cross_join"]

def readName : Reader String
  | .word w :: rest => if w ∈ reserved then none else some (w, rest)
  | _ => none

section

variable (numeral : String → Literal)

/-- The literal that a word is, if it is one. -/
def literalOf? (w : String) : Option Literal :=
  if w = "null" then some .null
  else if w = "true" then some (.boolean true)
  else if w = "false" then some (.boolean false)
  else if w.toList.head?.any (fun c => c.isDigit || c == '-') then some (numeral w)
  else none

def readLiteral : Reader Literal
  | .quoted s :: rest => some (.string s, rest)
  | .word w :: rest => (literalOf? numeral w).map (·, rest)
  | _ => none

def readRename : Reader RenameItem := fun ts => do
  let (source, ts) ← readName ts
  let ts ← expect (.word "to") ts
  let (target, ts) ← readName ts
  return (⟨source, target⟩, ts)

/-- The names behind a word, if that is there. -/
def readNamesBehind (words : List Token) (f : Nat) : Reader (List String) := fun ts =>
  if words.isPrefixOf ts then readMany readName f (ts.drop words.length) else some ([], ts)

variable (c : Convention)

mutual

def readExpr : Nat → Nat → Reader Node
  | 0, _, _ => none
  | f + 1, level, ts => do
    let (first, ts) ← readTight f ts
    readOn f level first ts

/-- Goes on behind a node, with operators that bind at the level or more tightly. -/
def readOn : Nat → Nat → Node → Reader Node
  | 0, _, _, _ => none
  | f + 1, level, left, ts =>
    match infix? ts with
    | none => some (left, ts)
    | some (op, rest) =>
      if c.level op < level then some (left, ts)
      else do
        let (node, rest) ← readBehind f left op rest
        readOn f level node rest

/-- What an operator and the node before it make together with the tokens behind. -/
def readBehind : Nat → Node → Infix → Reader Node
  | 0, _, _, _ => none
  | f + 1, left, .binary op, ts => do
    let (right, ts) ← readExpr f (c.level (.binary op) + 1) ts
    return (⟨.binary op left right, none⟩, ts)
  | f + 1, left, .member negated, ts => do
    let ts ← expect (.mark '\x7b') ts
    let (list, ts) ← readMany (readLiteral numeral) f ts
    let ts ← expect (.mark '\x7d') ts
    return (⟨.membership negated left list, none⟩, ts)

def readTight : Nat → Reader Node
  | 0, _ => none
  | f + 1, ts =>
    match prefix? ts with
    | some (op, rest) => do
      let (operand, rest) ← readTight f rest
      return (⟨.unary op operand, none⟩, rest)
    | none =>
      match expect (.word "if") ts with
      | some rest => do
        let (condition, rest) ← readExpr f 0 rest
        let rest ← expect (.word "then") rest
        let (thenBranch, rest) ← readExpr f 0 rest
        let rest ← expect (.word "else") rest
        let (elseBranch, rest) ← readExpr f 0 rest
        return (⟨.conditional condition thenBranch elseBranch, none⟩, rest)
      | none => do
        let (core, ts) ← readCore f ts
        readClauses f core ts

def readCore : Nat → Reader Node
  | 0, _ => none
  | f + 1, ts =>
    match ts with
    | .opening w :: rest =>
      match JoinKind.named? w with
      | some kind => do
        let (operands, rest) ← readMany (readOperand f) f rest
        let (keys, rest) ← readNamesBehind [.word "using"] f rest
        let rest ← expect (.mark ')') rest
        return (⟨.join kind operands keys, none⟩, rest)
      | none => do
        let (args, rest) ← readMany (readExpr f 0) f rest
        let rest ← expect (.mark ')') rest
        return (⟨.call .string w args, none⟩, rest)
    | .mark '(' :: rest => do
      let (inner, rest) ← readExpr f 0 rest
      let rest ← expect (.mark ')') rest
      return (⟨.parenthesis inner, none⟩, rest)
    | ts =>
      match readLiteral numeral ts with
      | some (l, rest) => some (⟨.literal l, none⟩, rest)
      | none => (readName ts).map fun (name, rest) => (⟨.name name, none⟩, rest)

def readOperand : Nat → Reader JoinOperand
  | 0, _ => none
  | f + 1, ts => do
    let (dataset, ts) ← readExpr f 0 ts
    match expect (.word "as") ts with
    | none => return (⟨dataset, none⟩, ts)
    | some rest => do
      let (name, rest) ← readName rest
      return (⟨dataset, some name⟩, rest)

/-- The clauses behind a node. -/
def readClauses : Nat → Node → Reader Node
  | 0, _, _ => none
  | f + 1, left, ts =>
    match expect (.mark '[') ts with
    | none => some (left, ts)
    | some rest => do
      let (clause, rest) ← readClause f rest
      let rest ← expect (.mark ']') rest
      readClauses f ⟨.clause left clause, none⟩ rest

def readClause : Nat → Reader Clause
  | 0, _ => none
  | f + 1, ts =>
    match ts with
    | .word "calc" :: rest => do
      let (items, rest) ← readMany (readCalculation f) f rest
      return (.calculate items, rest)
    | .word "filter" :: rest => do
      let (predicate, rest) ← readExpr f 0 rest
      return (.filter predicate, rest)
    | .word "rename" :: rest => do
      let (items, rest) ← readMany readRename f rest
      return (.rename items, rest)
    | .word "keep" :: rest => do
      let (names, rest) ← readMany readName f rest
      return (.keep names, rest)
    | .word "drop" :: rest => do
      let (names, rest) ← readMany readName f rest
      return (.drop names, rest)
    | .word "aggr" :: rest => do
      let (items, rest) ← readMany (readCollection f) f rest
      let (groupBy, rest) ← readNamesBehind [.word "group", .word "by"] f rest
      return (.aggregate items groupBy, rest)
    | _ => none

def readCalculation : Nat → Reader CalcItem
  | 0, _ => none
  | f + 1, ts => do
    let (name, ts) ← readName ts
    let ts ← expect (.word ":=") ts
    let (expression, ts) ← readExpr f 0 ts
    return (⟨name, none, expression⟩, ts)

def readCollection : Nat → Reader AggregateItem
  | 0, _ => none
  | f + 1, ts => do
    let (name, ts) ← readName ts
    match ← expect (.word ":=") ts with
    | .opening w :: ts =>
      match AggregateFunction.named? w with
      | none => none
      | some function =>
        (readExpr f 0 ts).elim
          (do
            let rest ← expect (.mark ')') ts
            return (⟨name, none, function, none⟩, rest))
          fun (operand, rest) => do
            let rest ← expect (.mark ')') rest
            return (⟨name, none, function, some operand⟩, rest)
    | _ => none

end

end

/-! ### Enough fuel -/

/-- With enough fuel the result is the given one. -/
def Settles {α : Type} (g : Nat → Option α) (a : α) : Prop := ∃ n, ∀ f, n ≤ f → g f = some a

namespace Settles

variable {α β : Type} {g : Nat → Option α} {a b : α}

theorem const (a : α) : Settles (fun _ => some a) a := ⟨0, fun _ _ => rfl⟩

theorem of_succ (h : Settles (fun f => g (f + 1)) a) : Settles g a := by
  obtain ⟨n, h⟩ := h
  refine ⟨n + 1, fun f enough => ?_⟩
  obtain ⟨m, rfl⟩ := Nat.exists_eq_add_of_le' (Nat.le_of_add_left_le enough)
  exact h m (Nat.le_of_succ_le_succ enough)

/-- What settles on the result of one step settles on the step itself. -/
theorem comp {k : Nat → Option α → Option β} {b : β} (first : Settles g a)
    (later : Settles (fun f => k f (some a)) b) : Settles (fun f => k f (g f)) b := by
  obtain ⟨n, first⟩ := first
  obtain ⟨m, later⟩ := later
  refine ⟨max n m, fun f enough => ?_⟩
  dsimp only
  rw [first f ((le_max_left n m).trans enough)]
  exact later f ((le_max_right n m).trans enough)

theorem bind {k : Nat → α → Option β} {b : β} (first : Settles g a)
    (later : Settles (fun f => k f a) b) : Settles (fun f => g f >>= k f) b :=
  comp (k := fun f r => r >>= k f) first later

theorem elim {k : Nat → α → Option β} {d : Nat → Option β} {b : β} (first : Settles g a)
    (later : Settles (fun f => k f a) b) : Settles (fun f => (g f).elim (d f) (k f)) b :=
  comp (k := fun f r => r.elim (d f) (k f)) first later

theorem unique (h : Settles g a) (h' : Settles g b) : a = b := by
  obtain ⟨n, h⟩ := h
  obtain ⟨m, h'⟩ := h'
  have same := (h _ (le_max_left n m)).symm.trans (h' _ (le_max_right n m))
  exact Option.some.inj same

end Settles

/-! ### What follows -/

/-- Behind a list. -/
def listEnds : List Token :=
  [.mark ')', .mark ']', .mark '\x7d', .word "using", .word "group"]

/-- Behind an item of a list. -/
def enders : List Token := .mark ',' :: listEnds

/-- Behind an expression. -/
def closers : List Token := .word "then" :: .word "else" :: .word "as" :: enders

/-- The characters begin with one of the tokens, and break off a word before them. -/
structure Follows (tokens : List Token) (rest : List Char) : Prop where
  breaks : Breaks rest
  first : ∀ t ∈ (lex rest).head?, t ∈ tokens

/-- The characters begin with a token that ends lists. -/
structure Closes (rest : List Char) : Prop where
  breaks : Breaks rest
  first : ∃ t ∈ listEnds, ∃ ts, lex rest = t :: ts

theorem Closes.follows {rest : List Char} (h : Closes rest) : Follows enders rest := by
  obtain ⟨t, ender, ts, same⟩ := h.first
  refine ⟨h.breaks, fun s first => ?_⟩
  rw [same] at first
  cases first
  exact List.mem_cons_of_mem _ ender

/-- No clause begins here, and no operator that binds at the level or more tightly. -/
def Stops (c : Convention) (level : Nat) (ts : List Token) : Prop :=
  expect (.mark '[') ts = none ∧ ∀ op rest, infix? ts = some (op, rest) → c.level op < level

theorem Stops.mono {c : Convention} {level higher : Nat} {ts : List Token} (h : Stops c level ts)
    (le : level ≤ higher) : Stops c higher ts :=
  ⟨h.1, fun op rest found => (h.2 op rest found).trans_le le⟩

/-- All operators bind. -/
theorem Stops.zero {c : Convention} {ts : List Token} (h : Stops c 1 ts) : Stops c 0 ts :=
  ⟨h.1, fun op rest found => (Nat.not_lt.mpr (c.level_pos op) (h.2 op rest found)).elim⟩

theorem Follows.stops {c : Convention} {rest : List Char} (h : Follows closers rest) (level : Nat) :
    Stops c level (lex rest) := by
  have first := h.first
  cases same : lex rest with
  | nil => exact ⟨rfl, nofun⟩
  | cons t ts =>
    rw [same] at first
    have plain : expect (.mark '[') (t :: ts) = none ∧ infix? (t :: ts) = none := by
      have listed := first t rfl
      simp only [closers, enders, listEnds, List.mem_cons, List.not_mem_nil, or_false] at listed
      rcases listed with rfl | rfl | rfl | rfl | rfl | rfl | rfl | rfl | rfl <;> exact ⟨rfl, rfl⟩
    refine ⟨plain.1, fun op rest found => ?_⟩
    cases found.symm.trans plain.2

theorem Follows.expect_none {tokens : List Token} {rest : List Char} (h : Follows tokens rest)
    {t : Token} (other : t ∉ tokens) : expect t (lex rest) = none := by
  have first := h.first
  cases same : lex rest with
  | nil => rfl
  | cons s ts =>
    rw [same] at first
    exact if_neg fun (equal : s = t) => other (equal ▸ first s rfl)

theorem Follows.closing {rest : List Char} (h : Follows enders rest) : Follows closers rest :=
  ⟨h.breaks, fun t first => List.mem_append_right [_, _, _] (h.first t first)⟩

theorem infix?_symbol (op : Infix) (ts : List Token) :
    infix? (.word op.symbol :: ts) = some (op, ts) := by
  have found : ∀ op, infixes.find? (·.symbol = Infix.symbol op) = some op := by
    rintro (op | negated)
    · rcases op with op | op | op | op <;> cases op <;> rfl
    · cases negated <;> rfl
  simp [infix?, found]

theorem follows_spaced (w text : String) (word : IsWord w)
    (spaced : text.toList = ' ' :: (w.toList ++ [' '])) (closer : .word w ∈ closers)
    (rest : List Char) : Follows closers (text.toList ++ rest) := by
  refine ⟨spaced ▸ breaks_blank _, fun t first => ?_⟩
  rw [lex_spaced w text word spaced] at first
  cases first
  exact closer

theorem lex_operator (op : Infix) (rest : List Char) :
    lex (' ' :: (op.symbol.toList ++ ' ' :: rest)) = .word op.symbol :: lex rest := by
  rw [lex_blank]
  by_cases word : IsWord op.symbol
  · rw [lex_word word (breaks_blank rest), lex_blank]
  · have sign : op = .binary (.additive .plus) ∨ op = .binary (.additive .minus) := by
      revert word
      rcases op with op | negated
      · rcases op with op | op | op | op <;> cases op <;> decide
      · cases negated <;> decide
    rcases sign with rfl | rfl
    · exact (lex_sign rfl).trans (congrArg _ (lex_blank rest))
    · exact (lex_sign rfl).trans (congrArg _ (lex_blank rest))

/-! ### Lists -/

section

variable {α β : Type}

theorem readMany_end {item : Reader β} {ts : List Token} (stuck : item ts = none) (g : Nat) :
    readMany item (g + 1) ts = some ([], ts) := by
  rw [readMany, stuck]

theorem readMany_last {item : Reader β} {ts rest : List Token} {b : β}
    (here : item ts = some (b, rest)) (noComma : expect (.mark ',') rest = none) (g : Nat) :
    readMany item (g + 1) ts = some ([b], rest) := by
  simp [readMany, here, noComma]

theorem readMany_more {item : Reader β} {ts between rest : List Token} {b : β} {bs : List β}
    {g : Nat} (here : item ts = some (b, .mark ',' :: between))
    (later : readMany item g between = some (bs, rest)) :
    readMany item (g + 1) ts = some (b :: bs, rest) := by
  simp [readMany, here, expect, later]

theorem expect_self (t : Token) (rest : List Token) : expect t (t :: rest) = some rest := if_pos rfl

theorem expect_mark {m : Char} (mark : m ∈ marks) (rest : List Char) :
    expect (.mark m) (lex (m :: rest)) = some (lex rest) := by
  rw [lex_mark mark, expect_self]

theorem closes_mark {m : Char} (mark : m ∈ marks) (ender : .mark m ∈ listEnds)
    (rest : List Char) : Closes (m :: rest) := by
  refine ⟨breaks_mark mark ?_ rest, .mark m, ender, lex rest, lex_mark mark rest⟩
  rintro rfl
  revert ender
  decide

theorem follows_mark {m : Char} (mark : m ∈ marks) (ending : .mark m ∈ enders)
    (rest : List Char) : Follows enders (m :: rest) := by
  refine ⟨breaks_mark mark ?_ rest, fun t first => ?_⟩
  · rintro rfl
    revert ending
    decide
  · rw [lex_mark mark] at first
    cases first
    exact ending

theorem lex_comma (rest : List Char) : lex (", ".toList ++ rest) = .mark ',' :: lex rest :=
  (lex_mark (by decide) _).trans (congrArg _ (lex_blank rest))

theorem follows_comma (rest : List Char) : Follows enders (", ".toList ++ rest) :=
  follows_mark (by decide) (by decide) _

/-- No item begins with a token that ends lists. -/
def Halts (item : Nat → Reader β) : Prop := ∀ t ∈ listEnds, ∀ f ts, item f (t :: ts) = none

theorem Halts.stuck {item : Nat → Reader β} (halts : Halts item) {rest : List Char}
    (closes : Closes rest) (f : Nat) : item f (lex rest) = none := by
  obtain ⟨t, ender, ts, same⟩ := closes.first
  rw [same]
  exact halts t ender f ts

theorem Closes.no_comma {rest : List Char} (closes : Closes rest) :
    expect (.mark ',') (lex rest) = none := by
  obtain ⟨t, ender, ts, same⟩ := closes.first
  rw [same]
  refine if_neg ?_
  rintro rfl
  revert ender
  decide

theorem commaList_singleton (text : String) : commaList [text] = text := by
  simp [commaList]

theorem toList_commaList_cons (first second : String) (texts : List String) :
    (commaList (first :: second :: texts)).toList =
      first.toList ++ (", ".toList ++ (commaList (second :: texts)).toList) := by
  simp [commaList, String.toList_intercalate]

/-- The items are read, with a comma behind each but the last one. -/
theorem readMany_list {item : Nat → Reader β} (text : α → String) (value : α → β)
    (halts : Halts item) {rest : List Char} (closes : Closes rest) {xs : List α}
    (each : ∀ x ∈ xs, ∀ rest, Follows enders rest →
      Settles (fun f => item f (lex ((text x).toList ++ rest))) (value x, lex rest)) :
    Settles (fun f => readMany (item f) f (lex ((commaList (xs.map text)).toList ++ rest)))
      (xs.map value, lex rest) := by
  -- Each item is read with the fuel for the whole list.
  suffices ∃ n, ∀ f g, n ≤ f → n ≤ g →
      readMany (item f) g (lex ((commaList (xs.map text)).toList ++ rest)) =
        some (xs.map value, lex rest) by
    obtain ⟨n, read⟩ := this
    exact ⟨n, fun f enough => read f f enough enough⟩
  induction xs with
  | nil =>
    refine ⟨1, fun f g _ enough => ?_⟩
    obtain ⟨g, rfl⟩ := Nat.exists_eq_add_of_le' enough
    exact readMany_end (halts.stuck closes f) g
  | cons x xs ih =>
    obtain ⟨first, later⟩ := List.forall_mem_cons.mp each
    cases xs with
    | nil =>
      obtain ⟨n, read⟩ := first rest closes.follows
      refine ⟨n + 1, fun f g enough enough' => ?_⟩
      obtain ⟨g, rfl⟩ := Nat.exists_eq_add_of_le' (Nat.le_of_add_left_le enough')
      rw [List.map_singleton, commaList_singleton]
      exact readMany_last (read f (Nat.le_of_succ_le enough)) closes.no_comma g
    | cons y ys =>
      obtain ⟨m, others⟩ := ih later
      obtain ⟨n, read⟩ := first _ (follows_comma ((commaList ((y :: ys).map text)).toList ++ rest))
      refine ⟨n + m + 1, fun f g enough enough' => ?_⟩
      obtain ⟨g, rfl⟩ := Nat.exists_eq_add_of_le' (Nat.le_of_add_left_le enough')
      have here := read f (by omega)
      rw [lex_comma] at here
      rw [List.map_cons, List.map_cons, toList_commaList_cons, List.append_assoc, List.append_assoc]
      exact readMany_more here (others f g (by omega) (by omega))

end

end DatasetScript
