import DatasetScript.Proofs.BareTrees
import DatasetScript.Proofs.NumberTexts
import DatasetScript.Proofs.TreeReading
/-!
# Texts determine trees

The text of a tree that is written by a convention, with parentheses where they are needed, is read
back as the tree without what texts leave out. Main statements: `Node.Written.readsBack`, with a
statement for each form of nodes, and `bare_eq_iff`.
-/

namespace DatasetScript

/-! ### Trees written by a convention -/

/-- A word that stands for itself. -/
def IsName (w : String) : Prop :=
  IsWord w ∧ w ∉ reserved ∧ ¬ w.toList.head?.any (fun c => c.isDigit || c == '-')

instance : DecidablePred IsName := fun _ => inferInstanceAs (Decidable (_ ∧ _ ∧ _))

/-- Literals that their texts determine. -/
def Literal.IsPlain : Literal → Prop
  | .number x => x.isFinite
  | .string s => '"' ∉ s.toList
  | _ => True

namespace Clause

/-- The expressions of a clause. -/
def expressions : Clause → List Node
  | calculate items => items.map (·.expression)
  | filter predicate => [predicate]
  | aggregate items _ => items.filterMap (·.operand)
  | _ => []

/-- The names of columns that a clause gives or asks for on its own. -/
def names : Clause → List String
  | calculate items => items.map (·.name)
  | filter _ => []
  | rename items => items.flatMap fun item => [item.source, item.target]
  | keep names | drop names => names
  | aggregate items groupBy => items.map (·.name) ++ groupBy

end Clause

namespace Node

/-- How tightly the parts of a node hold together, if it is not in one piece. -/
def strength? (c : Convention) : Node → Option Nat
  | ⟨.binary op _ _, _⟩ => some (c.level (.binary op))
  | ⟨.membership negated _ _, _⟩ => some (c.level (.member negated))
  | ⟨.conditional .., _⟩ => some 0
  | _ => none

/-- The node may be an operand where parts must hold together at least so tightly. -/
def Binds (c : Convention) (level : Nat) (node : Node) : Prop :=
  ∀ strength ∈ node.strength? c, level ≤ strength

/-- The node is in one piece, and has no sign or negation before it. -/
def IsCore : Node → Prop
  | ⟨.binary .., _⟩ | ⟨.membership .., _⟩ | ⟨.conditional .., _⟩ | ⟨.unary .., _⟩ => False
  | _ => True

/-- The tree has parentheses where its text would be read otherwise by the convention. Its names are
words, and its texts have no quotes inside. -/
inductive Written (c : Convention) : Node → Prop
  | literal {l : Literal} (plain : l.IsPlain) (p : Option Position) : Written c ⟨.literal l, p⟩
  | name {x : String} (name : IsName x) (p : Option Position) : Written c ⟨.name x, p⟩
  | binary {op : BinaryOp} {left right : Node} (first : Written c left) (second : Written c right)
    (onLeft : left.Binds c (c.level (.binary op)))
    (onRight : right.Binds c (c.level (.binary op) + 1)) (p : Option Position) :
    Written c ⟨.binary op left right, p⟩
  | unary {op : UnaryOp} {operand : Node} (written : Written c operand)
    (tight : operand.strength? c = none)
    (unlike : op = .minus → ¬ operand.text.toList.head?.any Char.isDigit) (p : Option Position) :
    Written c ⟨.unary op operand, p⟩
  | parenthesis {inner : Node} (written : Written c inner) (p : Option Position) :
    Written c ⟨.parenthesis inner, p⟩
  | membership {negated : Bool} {operand : Node} {list : List Literal}
    (written : Written c operand) (binds : operand.Binds c (c.level (.member negated)))
    (plain : ∀ l ∈ list, l.IsPlain) (p : Option Position) :
    Written c ⟨.membership negated operand list, p⟩
  | conditional {condition thenBranch elseBranch : Node} (first : Written c condition)
    (second : Written c thenBranch) (third : Written c elseBranch) (p : Option Position) :
    Written c ⟨.conditional condition thenBranch elseBranch, p⟩
  | call {family : FunctionFamily} {function : String} {args : List Node} (name : IsName function)
    (written : ∀ arg ∈ args, Written c arg) (p : Option Position) :
    Written c ⟨.call family function args, p⟩
  | join {kind : JoinKind} {operands : List JoinOperand} {keys : List String}
    (written : ∀ operand ∈ operands, Written c operand.dataset)
    (labels : ∀ operand ∈ operands, ∀ label ∈ operand.label, IsName label)
    (names : ∀ key ∈ keys, IsName key) (p : Option Position) :
    Written c ⟨.join kind operands keys, p⟩
  | clause {dataset : Node} {clause : Clause} (onDataset : Written c dataset)
    (core : dataset.IsCore) (written : ∀ part ∈ clause.expressions, Written c part)
    (names : ∀ name ∈ clause.names, IsName name) (p : Option Position) :
    Written c ⟨.clause dataset clause, p⟩

end Node

/-! ### Leaves -/

instance : Nonempty Literal := ⟨.null⟩

/-- The number that a text is the numeral of. -/
noncomputable def numeral : String → Literal :=
  Function.invFunOn Literal.text (Set.ofPred Literal.IsNumber)

theorem numeral_text {l : Literal} (number : l.IsNumber) : numeral l.text = l :=
  numbers_injOn.leftInvOn_invFunOn number

theorem Breaks.no_digit {rest : List Char} (breaks : Breaks rest) :
    ¬ rest.head?.any Char.isDigit := by
  cases rest with
  | nil => exact nofun
  | cons d rest =>
    intro digit
    cases (isWordChar_of_isDigit digit).symm.trans (breaks d rfl).1

theorem literalOf?_numeral {w : String} (h : IsNumeral w) :
    literalOf? numeral w = some (numeral w) := by
  rw [literalOf?, if_neg (h.ne (by decide)), if_neg (h.ne (by decide)), if_neg (h.ne (by decide)),
    if_pos h.first]

theorem toList_quoted (s : String) (rest : List Char) :
    (Literal.string s).text.toList ++ rest = '"' :: s.toList ++ '"' :: rest := by
  simp [Literal.text]

/-- The token that a literal is written as. -/
def Literal.token : Literal → Token
  | .string s => .quoted s
  | l => .word l.text

theorem lex_literal {l : Literal} (plain : l.IsPlain) {rest : List Char} (breaks : Breaks rest) :
    lex (l.text.toList ++ rest) = l.token :: lex rest := by
  have number (h : l.IsNumber) : lex (l.text.toList ++ rest) = .word l.text :: lex rest :=
    lex_word (isNumeral_text h).isWord breaks
  cases l with
  | null => exact lex_word (by decide) breaks
  | integer i => exact number trivial
  | number x => exact number plain
  | boolean b => cases b <;> exact lex_word (by decide) breaks
  | string s =>
    rw [toList_quoted]
    exact lex_quoted plain rest

theorem readLiteral_token {l : Literal} (plain : l.IsPlain) (ts : List Token) :
    readLiteral numeral (l.token :: ts) = some (l, ts) := by
  have number (h : l.IsNumber) : readLiteral numeral (.word l.text :: ts) = some (l, ts) := by
    simp only [readLiteral, literalOf?_numeral (isNumeral_text h), numeral_text h, Option.map_some]
  cases l with
  | null => rfl
  | integer i => exact number trivial
  | number x => exact number plain
  | boolean b => cases b <;> rfl
  | string s => rfl

theorem readLiteral_text {l : Literal} (plain : l.IsPlain) {rest : List Char}
    (breaks : Breaks rest) :
    readLiteral numeral (lex (l.text.toList ++ rest)) = some (l, lex rest) := by
  rw [lex_literal plain breaks, readLiteral_token plain]

theorem readName_text {w : String} (name : IsName w) {rest : List Char} (breaks : Breaks rest) :
    readName (lex (w.toList ++ rest)) = some (w, lex rest) := by
  rw [lex_word name.1 breaks, readName, if_neg name.2.1]

theorem readLiteral_name {w : String} (name : IsName w) (ts : List Token) :
    readLiteral numeral (.word w :: ts) = none := by
  obtain ⟨-, free, letter⟩ := name
  simp only [reserved, List.mem_cons, not_or] at free
  simp [readLiteral, literalOf?, free, letter]

/-! ### Ends of lists -/

theorem halts_iff {β : Type} {item : Nat → Reader β} : Halts item ↔ ∀ f ts,
    item f (.mark ')' :: ts) = none ∧ item f (.mark ']' :: ts) = none ∧
      item f (.mark '\x7d' :: ts) = none ∧ item f (.word "using" :: ts) = none ∧
      item f (.word "group" :: ts) = none := by
  simp [Halts, listEnds, forall_and]

theorem readLiteral_halts : Halts fun _ => readLiteral numeral :=
  halts_iff.mpr fun _ _ => ⟨rfl, rfl, rfl, rfl, rfl⟩

theorem readName_halts : Halts fun _ => readName :=
  halts_iff.mpr fun _ _ => ⟨rfl, rfl, rfl, rfl, rfl⟩

theorem readExpr_halts (c : Convention) (level : Nat) :
    Halts fun f => readExpr numeral c f level := by
  refine halts_iff.mpr fun f ts => ?_
  match f with
  | 0 | 1 | 2 | f + 3 => exact ⟨rfl, rfl, rfl, rfl, rfl⟩

/-! ### Reading back -/

section

variable {c : Convention} {node : Node}

/-- No operator or clause begins here that would become part of the node. -/
def Node.Ends (c : Convention) (node : Node) (ts : List Token) : Prop :=
  expect (.mark '[') ts = none ∧ ∀ strength ∈ node.strength? c, Stops c (strength + 1) ts

/-- The text of the node is read back: where its parts must hold together at least so tightly, and
what stands behind it is read on; as an operand of a sign or negation; and as a dataset with clauses
behind. -/
structure Node.ReadsBack (c : Convention) (node : Node) : Prop where
  loose : ∀ level rest out, node.Binds c level → Breaks rest → node.Ends c (lex rest) →
    Settles (fun f => readOn numeral c f level node.bare (lex rest)) out →
    Settles (fun f => readExpr numeral c f level (lex (node.text.toList ++ rest))) out
  tight : node.strength? c = none → ∀ rest, Breaks rest → expect (.mark '[') (lex rest) = none →
    Settles (fun f => readTight numeral c f (lex (node.text.toList ++ rest)))
      (node.bare, lex rest)
  core : node.IsCore → ∀ rest out, Breaks rest →
    Settles (fun f => readClauses numeral c f node.bare (lex rest)) out →
    Settles (fun f => readTight numeral c f (lex (node.text.toList ++ rest))) out

theorem readOn_stops {level : Nat} {ts : List Token} (stops : Stops c level ts) :
    Settles (fun f => readOn numeral c f level node ts) (node, ts) := by
  refine .of_succ ⟨0, fun f _ => ?_⟩
  dsimp only
  rw [readOn]
  cases found : infix? ts with
  | none => rfl
  | some pair =>
    obtain ⟨op, rest⟩ := pair
    exact if_pos (stops.2 op rest found)

theorem readClauses_stops {ts : List Token} (stops : expect (.mark '[') ts = none) :
    Settles (fun f => readClauses numeral c f node ts) (node, ts) := by
  refine .of_succ ⟨0, fun f _ => ?_⟩
  simp only [readClauses, stops]

theorem readExpr_of_tight {level : Nat} {ts rest : List Token} {out : Node × List Token}
    (first : Settles (fun f => readTight numeral c f ts) (node, rest))
    (later : Settles (fun f => readOn numeral c f level node rest) out) :
    Settles (fun f => readExpr numeral c f level ts) out := by
  refine .of_succ ?_
  simp only [readExpr]
  exact first.bind later

namespace Node.ReadsBack

theorem of_tight (compound : ¬ node.IsCore)
    (read : ∀ rest, Breaks rest → expect (.mark '[') (lex rest) = none →
      Settles (fun f => readTight numeral c f (lex (node.text.toList ++ rest)))
        (node.bare, lex rest)) : node.ReadsBack c where
  loose _ rest _ _ breaks ends later := readExpr_of_tight (read rest breaks ends.1) later
  tight _ := read
  core simple := (compound simple).elim

theorem of_core (read : ∀ rest out, Breaks rest →
      Settles (fun f => readClauses numeral c f node.bare (lex rest)) out →
      Settles (fun f => readTight numeral c f (lex (node.text.toList ++ rest))) out) :
    node.ReadsBack c where
  loose _ rest _ _ breaks ends later :=
    readExpr_of_tight (read rest _ breaks (readClauses_stops ends.1)) later
  tight _ rest breaks ends := read rest _ breaks (readClauses_stops ends)
  core _ := read

/-- An expression is read up to what closes it. -/
theorem closed (h : node.ReadsBack c) {rest : List Char} (follows : Follows closers rest) :
    Settles (fun f => readExpr numeral c f 0 (lex (node.text.toList ++ rest)))
      (node.bare, lex rest) :=
  h.loose 0 rest _ (fun _ _ => Nat.zero_le _) follows.breaks
    ⟨(follows.stops (c := c) 0).1, fun strength _ => follows.stops (strength + 1)⟩
    (readOn_stops (follows.stops 0))

end Node.ReadsBack

/-- Before an operator that does not bind more tightly than the node. -/
theorem Node.Binds.ends {op : Infix} (h : node.Binds c (c.level op)) (ts : List Token) :
    node.Ends c (.word op.symbol :: ts) := by
  refine ⟨rfl, fun strength here => ⟨rfl, fun other rest found => ?_⟩⟩
  cases (infix?_symbol op ts).symm.trans found
  exact Nat.lt_succ_of_le (h strength here)

/-- Where an operator that binds less tightly than the node would stop. -/
theorem Stops.ends {level : Nat} {ts : List Token} (h : Stops c level ts)
    (binds : node.Binds c level) : node.Ends c ts :=
  ⟨h.1, fun strength here => h.mono (Nat.le_succ_of_le (binds strength here))⟩

/-- An operator behind a node is read together with what belongs to it. -/
theorem readOn_operator {level : Nat} {op : Infix} {left : Node} {ts rest : List Token}
    {out : Node × List Token} (le : level ≤ c.level op)
    (behind : Settles (fun f => readBehind numeral c f left op ts) (node, rest))
    (later : Settles (fun f => readOn numeral c f level node rest) out) :
    Settles (fun f => readOn numeral c f level left (.word op.symbol :: ts)) out := by
  refine .of_succ ?_
  simp only [readOn, infix?_symbol, if_neg (Nat.not_lt.mpr le)]
  exact behind.bind later

theorem binary_readsBack {op : BinaryOp} {left right : Node} (p : Option Position)
    (first : left.ReadsBack c) (second : right.ReadsBack c)
    (onLeft : left.Binds c (c.level (.binary op)))
    (onRight : right.Binds c (c.level (.binary op) + 1)) :
    Node.ReadsBack c ⟨.binary op left right, p⟩ where
  tight loose := by cases loose
  core simple := simple.elim
  loose level rest out binds breaks ends later := by
    have le : level ≤ c.level (.binary op) := binds _ rfl
    have stops : Stops c (c.level (.binary op) + 1) (lex rest) := ends.2 _ rfl
    have parts : (Node.text ⟨.binary op left right, p⟩).toList ++ rest = left.text.toList ++
        ' ' :: ((Infix.binary op).symbol.toList ++ ' ' :: (right.text.toList ++ rest)) := by
      simp [Node.text, Form.text, Infix.symbol]
    rw [parts]
    refine first.loose level _ out (fun k here => le.trans (onLeft k here)) (breaks_blank _) ?_ ?_
    · rw [lex_operator]
      exact onLeft.ends _
    · rw [lex_operator]
      refine readOn_operator le (.of_succ ?_) later
      have read := second.loose _ rest _ onRight breaks (stops.ends onRight) (readOn_stops stops)
      simp only [readBehind]
      exact read.bind (.const _)

theorem membership_readsBack {negated : Bool} {operand : Node} {list : List Literal}
    (p : Option Position) (read : operand.ReadsBack c)
    (binds : operand.Binds c (c.level (.member negated))) (plain : ∀ l ∈ list, l.IsPlain) :
    Node.ReadsBack c ⟨.membership negated operand list, p⟩ where
  tight loose := by cases loose
  core simple := simple.elim
  loose level rest out within breaks ends later := by
    have le : level ≤ c.level (.member negated) := within _ rfl
    have parts : (Node.text ⟨.membership negated operand list, p⟩).toList ++ rest =
        operand.text.toList ++ ' ' :: ((Infix.member negated).symbol.toList ++ ' ' ::
          '\x7b' :: ((commaList (list.map Literal.text)).toList ++ '\x7d' :: rest)) := by
      cases negated <;> simp [Node.text, Form.text, Infix.symbol]
    rw [parts]
    refine read.loose level _ out (fun k here => le.trans (binds k here)) (breaks_blank _) ?_ ?_
    · rw [lex_operator]
      exact binds.ends _
    · rw [lex_operator, lex_mark (by decide)]
      refine readOn_operator le (.of_succ ?_) later
      have closes : Closes ('\x7d' :: rest) := closes_mark (by decide) (by decide) rest
      have items := readMany_list Literal.text id readLiteral_halts closes
        fun l listed rest follows => ⟨0, fun f _ => readLiteral_text (plain l listed) follows.breaks⟩
      rw [List.map_id] at items
      simp only [readBehind, expect_self, Option.bind_eq_bind, Option.bind_some]
      refine items.bind ?_
      simp only [expect_mark (show '\x7d' ∈ marks by decide), Option.bind_some]
      exact .const _

/-! ### Nodes in one piece -/

/-- No sign, negation or condition begins here. -/
def Plain (ts : List Token) : Prop := prefix? ts = none ∧ expect (.word "if") ts = none

theorem plain_word {w : String} (word : IsWord w) (other : w ∉ ["not", "if"]) (ts : List Token) :
    Plain (.word w :: ts) := by
  have signs : w ≠ "+" ∧ w ≠ "-" := by
    constructor <;> (rintro rfl; revert word; decide)
  simp only [List.mem_cons, List.not_mem_nil, or_false, not_or] at other
  simp [Plain, prefix?, expect, signs, other]

theorem readsBack_of_core (plain : ∀ rest, Breaks rest → Plain (lex (node.text.toList ++ rest)))
    (read : ∀ rest, Breaks rest →
      Settles (fun f => readCore numeral c f (lex (node.text.toList ++ rest)))
        (node.bare, lex rest)) : node.ReadsBack c := by
  refine .of_core fun rest out breaks later => .of_succ ?_
  obtain ⟨unsigned, sure⟩ := plain rest breaks
  simp only [readTight, unsigned, sure]
  exact (read rest breaks).bind later

theorem plain_token {l : Literal} (plain : l.IsPlain) (ts : List Token) : Plain (l.token :: ts) := by
  have number (h : l.IsNumber) : Plain (.word l.text :: ts) := by
    have numeral := isNumeral_text h
    refine plain_word numeral.isWord (fun listed => ?_) ts
    simp only [List.mem_cons, List.not_mem_nil, or_false] at listed
    rcases listed with same | same <;> exact numeral.ne (by decide) same
  cases l with
  | null => exact plain_word (by decide) (by decide) ts
  | integer i => exact number trivial
  | number x => exact number plain
  | boolean b => cases b <;> exact plain_word (by decide) (by decide) ts
  | string s => exact ⟨rfl, rfl⟩

theorem readCore_token {l : Literal} (plain : l.IsPlain) (f : Nat) (ts : List Token) :
    readCore numeral c (f + 1) (l.token :: ts) = some (⟨.literal l, none⟩, ts) := by
  have read := readLiteral_token plain ts
  cases l <;> simp only [readCore, Literal.token] at read ⊢ <;> rw [read]

theorem literal_readsBack {l : Literal} (plain : l.IsPlain) (p : Option Position) :
    Node.ReadsBack c ⟨.literal l, p⟩ := by
  refine readsBack_of_core (fun rest breaks => ?_) (fun rest breaks => .of_succ ⟨0, fun f _ => ?_⟩)
  · rw [Node.text, Form.text, lex_literal plain breaks]
    exact plain_token plain _
  · dsimp only
    rw [Node.text, Form.text, lex_literal plain breaks]
    exact readCore_token plain f _

theorem name_readsBack {x : String} (name : IsName x) (p : Option Position) :
    Node.ReadsBack c ⟨.name x, p⟩ := by
  refine readsBack_of_core (fun rest breaks => ?_) (fun rest breaks => .of_succ ⟨0, fun f _ => ?_⟩)
  · rw [Node.text, Form.text, lex_word name.1 breaks]
    refine plain_word name.1 (fun listed => name.2.1 ?_) _
    revert listed
    simp only [reserved, List.mem_cons, List.not_mem_nil, or_false]
    tauto
  · dsimp only
    rw [Node.text, Form.text, lex_word name.1 breaks]
    simp [readCore, readLiteral_name name, readName, name.2.1, Node.bare, Form.bare]

theorem parenthesis_readsBack {inner : Node} (p : Option Position) (read : inner.ReadsBack c) :
    Node.ReadsBack c ⟨.parenthesis inner, p⟩ := by
  have parts (rest : List Char) : (Node.text ⟨.parenthesis inner, p⟩).toList ++ rest =
      '(' :: (inner.text.toList ++ ')' :: rest) := by
    simp [Node.text, Form.text]
  refine readsBack_of_core (fun rest breaks => ?_) (fun rest breaks => .of_succ ?_)
  · rw [parts, lex_mark (by decide)]
    exact ⟨rfl, rfl⟩
  · have follows : Follows enders (')' :: rest) := follows_mark (by decide) (by decide) rest
    rw [parts, lex_mark (by decide)]
    simp only [readCore]
    refine (read.closed follows.closing).bind ?_
    simp only [expect_mark (show ')' ∈ marks by decide)]
    exact .const _

theorem JoinKind.named?_eq_none {w : String} (name : IsName w) : named? w = none := by
  have free := name.2.1
  simp only [reserved, List.mem_cons, not_or] at free
  simp [named?, JoinKind.name, Ne.symm, free, eq_comm]

theorem JoinKind.named?_name (kind : JoinKind) : named? kind.name = some kind := by
  cases kind <;> rfl

theorem call_readsBack {family : FunctionFamily} {function : String} {args : List Node}
    (p : Option Position) (name : IsName function) (read : ∀ arg ∈ args, arg.ReadsBack c) :
    Node.ReadsBack c ⟨.call family function args, p⟩ := by
  have parts (rest : List Char) : (Node.text ⟨.call family function args, p⟩).toList ++ rest =
      function.toList ++ '(' :: ((commaList (args.map Node.text)).toList ++ ')' :: rest) := by
    simp [Node.text, Form.text, nodeTexts_eq_map]
  refine readsBack_of_core (fun rest breaks => ?_) (fun rest breaks => .of_succ ?_)
  · rw [parts, lex_opening name.1]
    exact ⟨rfl, rfl⟩
  · have closes : Closes (')' :: rest) := closes_mark (by decide) (by decide) rest
    have items := readMany_list Node.text Node.bare (readExpr_halts c 0) closes
      fun arg listed rest follows => (read arg listed).closed follows.closing
    rw [parts, lex_opening name.1]
    simp only [readCore, JoinKind.named?_eq_none name]
    refine items.bind ?_
    simp only [expect_mark (show ')' ∈ marks by decide)]
    rw [Node.bare, Form.bare, bareArguments_eq_map]
    exact .const _

theorem readOperand_text {o : JoinOperand} (read : o.dataset.ReadsBack c)
    (label : ∀ name ∈ o.label, IsName name) {rest : List Char} (follows : Follows enders rest) :
    Settles (fun f => readOperand numeral c f (lex (o.text.toList ++ rest)))
      (o.bare, lex rest) := by
  obtain ⟨dataset, _ | name⟩ := o
  · have parts : (JoinOperand.text ⟨dataset, none⟩).toList ++ rest =
        dataset.text.toList ++ rest := by
      simp [JoinOperand.text]
    rw [parts]
    refine .of_succ ?_
    simp only [readOperand]
    refine (read.closed follows.closing).bind ?_
    simp only [follows.expect_none (t := .word "as") (by decide)]
    exact .const _
  · have parts : (JoinOperand.text ⟨dataset, some name⟩).toList ++ rest =
        dataset.text.toList ++ (" as ".toList ++ (name.toList ++ rest)) := by
      simp [JoinOperand.text]
    have lexed : lex (" as ".toList ++ (name.toList ++ rest)) =
        .word "as" :: lex (name.toList ++ rest) :=
      lex_spaced "as" " as " (by decide) rfl _
    have after : Follows closers (" as ".toList ++ (name.toList ++ rest)) :=
      follows_spaced "as" " as " (by decide) rfl (by decide) _
    rw [parts]
    refine .of_succ ?_
    simp only [readOperand]
    refine (read.closed after).bind ?_
    simp only [lexed, expect_self, readName_text (label name rfl) follows.breaks]
    exact .const _

theorem names_text {names : List String} (each : ∀ name ∈ names, IsName name) {rest : List Char}
    (closes : Closes rest) :
    Settles (fun f => readMany readName f (lex ((commaList names).toList ++ rest)))
      (names, lex rest) := by
  have read := readMany_list id id readName_halts closes fun name listed rest follows =>
    ⟨0, fun f _ => readName_text (each name listed) follows.breaks⟩
  rwa [List.map_id] at read

/-- Names behind words are read together with these, which do not stand there without names. -/
theorem readNamesBehind_text {w text : String} {ws : List Token}
    (words : ∀ rest, lex (text.toList ++ rest) = .word w :: ws ++ lex rest) {names : List String}
    (each : ∀ name ∈ names, IsName name) {m : Char} (mark : m ∈ marks) (ender : .mark m ∈ listEnds)
    (rest : List Char) : Settles (fun f => readNamesBehind (.word w :: ws) f
      (lex ((if names.isEmpty then "" else text ++ commaList names).toList ++ m :: rest)))
      (names, lex (m :: rest)) := by
  cases names with
  | nil =>
    have lexed : lex (m :: rest) = .mark m :: lex rest := lex_mark mark rest
    simp only [List.isEmpty_nil, if_true, String.toList_empty, List.nil_append, lexed]
    exact .const _
  | cons name names =>
    have read := names_text each (closes_mark mark ender rest)
    simp only [List.isEmpty_cons, Bool.false_eq_true, if_false, String.toList_append,
      List.append_assoc, words]
    have front (ts : List Token) : (Token.word w :: ws).isPrefixOf (.word w :: ws ++ ts) = true :=
      List.isPrefixOf_iff_prefix.mpr (List.prefix_append _ ts)
    simp only [readNamesBehind, front, if_true, List.drop_left]
    exact read

theorem namesBehind_closes {w text : String} {ws : List Token} {cs : List Char}
    (words : ∀ rest, lex (text.toList ++ rest) = .word w :: ws ++ lex rest)
    (blank : text.toList = ' ' :: cs) (ender : .word w ∈ listEnds) (names : List String) {m : Char}
    (mark : m ∈ marks) (ender' : .mark m ∈ listEnds) (rest : List Char) :
    Closes ((if names.isEmpty then "" else text ++ commaList names).toList ++ m :: rest) := by
  cases names with
  | nil => exact closes_mark mark ender' rest
  | cons name names =>
    simp only [List.isEmpty_cons, Bool.false_eq_true, if_false, String.toList_append,
      List.append_assoc]
    exact ⟨blank ▸ breaks_blank _, .word w, ender, _, words _⟩

theorem lex_using (rest : List Char) :
    lex (" using ".toList ++ rest) = .word "using" :: [] ++ lex rest :=
  lex_spaced "using" " using " (by decide) rfl rest

theorem readOperand_halts (c : Convention) : Halts (readOperand numeral c) := by
  refine halts_iff.mpr fun f ts => ?_
  match f with
  | 0 | 1 | 2 | 3 | f + 4 => exact ⟨rfl, rfl, rfl, rfl, rfl⟩

theorem join_readsBack {kind : JoinKind} {operands : List JoinOperand} {keys : List String}
    (p : Option Position) (read : ∀ operand ∈ operands, operand.dataset.ReadsBack c)
    (labels : ∀ operand ∈ operands, ∀ label ∈ operand.label, IsName label)
    (names : ∀ key ∈ keys, IsName key) : Node.ReadsBack c ⟨.join kind operands keys, p⟩ := by
  have parts (rest : List Char) : (Node.text ⟨.join kind operands keys, p⟩).toList ++ rest =
      kind.name.toList ++ '(' :: ((commaList (operands.map JoinOperand.text)).toList ++
        ((if keys.isEmpty then "" else " using " ++ commaList keys).toList ++ ')' :: rest)) := by
    simp [Node.text, Form.text, joinOperandTexts_eq_map]
  have word : IsWord kind.name := by cases kind <;> decide
  refine readsBack_of_core (fun rest breaks => ?_) (fun rest breaks => .of_succ ?_)
  · rw [parts, lex_opening word]
    exact ⟨rfl, rfl⟩
  · have closes := namesBehind_closes lex_using rfl (by decide) keys (m := ')') (by decide)
      (by decide) rest
    have datasets := readMany_list JoinOperand.text JoinOperand.bare (readOperand_halts c) closes
      fun o listed rest follows => readOperand_text (read o listed) (labels o listed) follows
    have behind := readNamesBehind_text lex_using names (m := ')') (by decide) (by decide) rest
    rw [parts, lex_opening word]
    simp only [readCore, JoinKind.named?_name]
    refine datasets.bind (behind.bind ?_)
    simp only [expect_mark (show ')' ∈ marks by decide)]
    rw [Node.bare, Form.bare, bareOperands_eq_map]
    exact .const _

/-! ### Clauses -/

theorem clause_readsBack {dataset : Node} {clause : Clause} (p : Option Position)
    (read : dataset.ReadsBack c) (core : dataset.IsCore)
    (within : ∀ rest,
      Settles (fun f => readClause numeral c f (lex (clause.text.toList ++ ']' :: rest)))
        (clause.bare, lex (']' :: rest))) : Node.ReadsBack c ⟨.clause dataset clause, p⟩ := by
  have parts (rest : List Char) : (Node.text ⟨.clause dataset clause, p⟩).toList ++ rest =
      dataset.text.toList ++ '[' :: (clause.text.toList ++ ']' :: rest) := by
    simp [Node.text, Form.text]
  refine .of_core fun rest out breaks later => ?_
  rw [parts]
  refine read.core core _ out (breaks_mark (by decide) (by decide) _) (.of_succ ?_)
  simp only [readClauses, expect_mark (show '[' ∈ marks by decide)]
  refine (within rest).bind ?_
  simp only [expect_mark (show ']' ∈ marks by decide)]
  exact later

/-- A name with a word behind. -/
theorem readName_spaced {x : String} (name : IsName x) (w text : String) (word : IsWord w)
    (spaced : text.toList = ' ' :: (w.toList ++ [' '])) (rest : List Char) :
    readName (lex (x.toList ++ (text.toList ++ rest))) = some (x, .word w :: lex rest) := by
  have breaks : Breaks (text.toList ++ rest) := spaced ▸ breaks_blank _
  rw [readName_text name breaks, lex_spaced w text word spaced]

theorem readCalculation_text {item : CalcItem} (name : IsName item.name)
    (read : item.expression.ReadsBack c) {rest : List Char} (follows : Follows enders rest) :
    Settles (fun f => readCalculation numeral c f (lex (item.text.toList ++ rest)))
      (item.bare, lex rest) := by
  have parts : item.text.toList ++ rest =
      item.name.toList ++ (" := ".toList ++ (item.expression.text.toList ++ rest)) := by
    simp [CalcItem.text]
  refine .of_succ ?_
  simp only [parts, readCalculation, readName_spaced name ":=" " := " (by decide) rfl, expect_self,
    Option.bind_eq_bind, Option.bind_some]
  exact (read.closed follows.closing).bind (.const _)

theorem readCollection_text {item : AggregateItem} (name : IsName item.name)
    (read : ∀ operand ∈ item.operand, operand.ReadsBack c) (rest : List Char) :
    Settles (fun f => readCollection numeral c f (lex (item.text.toList ++ rest)))
      (item.bare, lex rest) := by
  obtain ⟨x, role, function, operand⟩ := item
  have parts : (AggregateItem.text ⟨x, role, function, operand⟩).toList ++ rest =
      x.toList ++ (" := ".toList ++ (function.name.toList ++ '(' ::
        (((operand.map Node.text).getD "").toList ++ ')' :: rest))) := by
    simp [AggregateItem.text]
  have word : IsWord function.name := by cases function <;> decide
  have named : AggregateFunction.named? function.name = some function := by cases function <;> rfl
  have closes : Closes (')' :: rest) := closes_mark (by decide) (by decide) rest
  refine .of_succ ?_
  simp only [parts, readCollection, readName_spaced name ":=" " := " (by decide) rfl, expect_self,
    Option.bind_eq_bind, Option.bind_some, lex_opening word, named]
  cases operand with
  | none =>
    have lexed : lex (')' :: rest) = .mark ')' :: lex rest := lex_mark (by decide) rest
    simp only [Option.map_none, Option.getD_none, String.toList_empty, List.nil_append, lexed,
      readExpr_halts c 0 (.mark ')') (by decide), Option.elim_none, expect_self, Option.bind_some]
    exact .const _
  | some operand =>
    refine ((read operand rfl).closed closes.follows.closing).elim ?_
    simp only [expect_mark (show ')' ∈ marks by decide)]
    exact .const _

theorem readRename_text {item : RenameItem} (source : IsName item.source)
    (target : IsName item.target) {rest : List Char} (breaks : Breaks rest) :
    readRename (lex (item.text.toList ++ rest)) = some (item, lex rest) := by
  have parts : item.text.toList ++ rest =
      item.source.toList ++ (" to ".toList ++ (item.target.toList ++ rest)) := by
    simp [RenameItem.text]
  simp only [parts, readRename, readName_spaced source "to" " to " (by decide) rfl, expect_self,
    readName_text target breaks, Option.bind_eq_bind, Option.bind_some]
  rfl

theorem readCalculation_halts (c : Convention) : Halts (readCalculation numeral c) := by
  refine halts_iff.mpr fun f ts => ?_
  match f with
  | 0 | f + 1 => exact ⟨rfl, rfl, rfl, rfl, rfl⟩

theorem readCollection_halts (c : Convention) : Halts (readCollection numeral c) := by
  refine halts_iff.mpr fun f ts => ?_
  match f with
  | 0 | f + 1 => exact ⟨rfl, rfl, rfl, rfl, rfl⟩

theorem readRename_halts : Halts fun _ => readRename :=
  halts_iff.mpr fun _ _ => ⟨rfl, rfl, rfl, rfl, rfl⟩

theorem lex_groupBy (rest : List Char) :
    lex (" group by ".toList ++ rest) = .word "group" :: [.word "by"] ++ lex rest := by
  have parts : " group by ".toList ++ rest = " group ".toList ++ ("by ".toList ++ rest) := rfl
  rw [parts, lex_spaced "group" " group " (by decide) rfl, lex_leading "by" "by " (by decide) rfl]
  rfl

theorem readClause_text {clause : Clause} (read : ∀ part ∈ clause.expressions, part.ReadsBack c)
    (names : ∀ name ∈ clause.names, IsName name) (rest : List Char) :
    Settles (fun f => readClause numeral c f (lex (clause.text.toList ++ ']' :: rest)))
      (clause.bare, lex (']' :: rest)) := by
  have closes : Closes (']' :: rest) := closes_mark (by decide) (by decide) rest
  refine .of_succ ?_
  cases clause with
  | calculate items =>
    have parts : (Clause.text (.calculate items)).toList ++ ']' :: rest =
        "calc ".toList ++ ((commaList (items.map CalcItem.text)).toList ++ ']' :: rest) := by
      simp [Clause.text, calcItemTexts_eq_map]
    have columns := readMany_list CalcItem.text CalcItem.bare (readCalculation_halts c) closes
      fun item listed rest follows => readCalculation_text (names _ (List.mem_map_of_mem listed))
        (read _ (List.mem_map_of_mem listed)) follows
    simp only [parts, lex_leading "calc" "calc " (by decide) rfl, readClause]
    rw [Clause.bare, bareCalculations_eq_map]
    exact columns.bind (.const _)
  | filter predicate =>
    have parts : (Clause.text (.filter predicate)).toList ++ ']' :: rest =
        "filter ".toList ++ (predicate.text.toList ++ ']' :: rest) := by
      simp [Clause.text]
    simp only [parts, lex_leading "filter" "filter " (by decide) rfl, readClause]
    exact ((read predicate List.mem_cons_self).closed closes.follows.closing).bind (.const _)
  | rename items =>
    have parts : (Clause.text (.rename items)).toList ++ ']' :: rest =
        "rename ".toList ++ ((commaList (items.map RenameItem.text)).toList ++ ']' :: rest) := by
      simp [Clause.text]
    have both {item : RenameItem} (listed : item ∈ items) :
        IsName item.source ∧ IsName item.target :=
      ⟨names _ (List.mem_flatMap.mpr ⟨item, listed, List.mem_cons_self⟩),
        names _ (List.mem_flatMap.mpr ⟨item, listed, List.mem_cons_of_mem _ List.mem_cons_self⟩)⟩
    have pairs := readMany_list RenameItem.text id readRename_halts closes
      fun item listed rest follows => ⟨0, fun f _ =>
        readRename_text (both listed).1 (both listed).2 follows.breaks⟩
    rw [List.map_id] at pairs
    simp only [parts, lex_leading "rename" "rename " (by decide) rfl, readClause]
    exact pairs.bind (.const _)
  | keep names' =>
    have parts : (Clause.text (.keep names')).toList ++ ']' :: rest =
        "keep ".toList ++ ((commaList names').toList ++ ']' :: rest) := by
      simp [Clause.text]
    simp only [parts, lex_leading "keep" "keep " (by decide) rfl, readClause]
    exact (names_text names closes).bind (.const _)
  | drop names' =>
    have parts : (Clause.text (.drop names')).toList ++ ']' :: rest =
        "drop ".toList ++ ((commaList names').toList ++ ']' :: rest) := by
      simp [Clause.text]
    simp only [parts, lex_leading "drop" "drop " (by decide) rfl, readClause]
    exact (names_text names closes).bind (.const _)
  | aggregate items groupBy =>
    have parts : (Clause.text (.aggregate items groupBy)).toList ++ ']' :: rest =
        "aggr ".toList ++ ((commaList (items.map AggregateItem.text)).toList ++
          ((if groupBy.isEmpty then "" else " group by " ++ commaList groupBy).toList ++
            ']' :: rest)) := by
      simp [Clause.text, aggregateItemTexts_eq_map]
    obtain ⟨ofItems, ofKeys⟩ := List.forall_mem_append.mp names
    have ending := namesBehind_closes lex_groupBy rfl (by decide) groupBy (m := ']') (by decide)
      (by decide) rest
    have behind := readNamesBehind_text lex_groupBy ofKeys (m := ']') (by decide) (by decide) rest
    have columns := readMany_list AggregateItem.text AggregateItem.bare (readCollection_halts c)
      ending fun item listed rest _ => readCollection_text (ofItems _ (List.mem_map_of_mem listed))
        (fun operand here => read operand (List.mem_filterMap.mpr ⟨item, listed, here⟩)) rest
    simp only [parts, lex_leading "aggr" "aggr " (by decide) rfl, readClause]
    rw [Clause.bare, bareCollections_eq_map]
    exact columns.bind (behind.bind (.const _))

/-! ### Operands and branches -/

theorem unary_readsBack {op : UnaryOp} {operand : Node} (p : Option Position)
    (read : operand.ReadsBack c) (tight : operand.strength? c = none)
    (unlike : op = .minus → ¬ operand.text.toList.head?.any Char.isDigit) :
    Node.ReadsBack c ⟨.unary op operand, p⟩ := by
  refine .of_tight id fun rest breaks ends => .of_succ ?_
  have parts : (Node.text ⟨.unary op operand, p⟩).toList ++ rest =
      op.symbol.toList ++ (operand.text.toList ++ rest) := by
    simp [Node.text, Form.text]
  have first : prefix? (lex (op.symbol.toList ++ (operand.text.toList ++ rest))) =
      some (op, lex (operand.text.toList ++ rest)) := by
    cases op with
    | plus =>
      have lexed : lex ('+' :: (operand.text.toList ++ rest)) = .word "+" :: _ := lex_sign rfl
      exact congrArg prefix? lexed
    | minus =>
      have other : ¬ (operand.text.toList ++ rest).head?.any Char.isDigit := by
        cases same : operand.text.toList with
        | nil => exact breaks.no_digit
        | cons d ds => simpa [same] using unlike rfl
      have sign : isSign '-' (operand.text.toList ++ rest) := by simpa [isSign] using other
      have lexed : lex ('-' :: (operand.text.toList ++ rest)) = .word "-" :: _ := lex_sign sign
      exact congrArg prefix? lexed
    | not =>
      exact congrArg prefix? (lex_leading "not" "not " (by decide) rfl _)
  rw [parts]
  simp only [readTight, first]
  exact (read.tight tight rest breaks ends).bind (.const _)

theorem conditional_readsBack {condition thenBranch elseBranch : Node} (p : Option Position)
    (first : condition.ReadsBack c) (second : thenBranch.ReadsBack c)
    (third : elseBranch.ReadsBack c) :
    Node.ReadsBack c ⟨.conditional condition thenBranch elseBranch, p⟩ where
  tight loose := by cases loose
  core simple := simple.elim
  loose level rest out binds breaks ends later := by
    have parts : (Node.text ⟨.conditional condition thenBranch elseBranch, p⟩).toList ++ rest =
        "if ".toList ++ (condition.text.toList ++ (" then ".toList ++
          (thenBranch.text.toList ++ (" else ".toList ++ (elseBranch.text.toList ++ rest))))) := by
      simp [Node.text, Form.text]
    have stops : Stops c 1 (lex rest) := ends.2 _ rfl
    have third := third.loose 0 rest _ (fun _ _ => Nat.zero_le _) breaks
      (stops.zero.ends fun _ _ => Nat.zero_le _) (readOn_stops stops.zero)
    rw [parts]
    refine readExpr_of_tight (.of_succ ?_) later
    rw [lex_leading "if" "if " (by decide) rfl]
    simp only [readTight, prefix?, String.reduceEq, if_false, expect_self]
    refine (first.closed (follows_spaced "then" " then " (by decide) rfl (by decide) _)).bind ?_
    simp only [lex_spaced "then" " then " (by decide) rfl, expect_self, Option.bind_eq_bind,
      Option.bind_some]
    refine (second.closed (follows_spaced "else" " else " (by decide) rfl (by decide) _)).bind ?_
    simp only [lex_spaced "else" " else " (by decide) rfl, expect_self, Option.bind_some]
    exact third.bind (.const _)

/-! ### Main statement -/

theorem Node.Written.readsBack (h : node.Written c) : node.ReadsBack c := by
  induction h with
  | literal plain p => exact literal_readsBack plain p
  | name name p => exact name_readsBack name p
  | binary _ _ onLeft onRight p first second => exact binary_readsBack p first second onLeft onRight
  | unary _ tight unlike p read => exact unary_readsBack p read tight unlike
  | parenthesis _ p read => exact parenthesis_readsBack p read
  | membership _ binds plain p read => exact membership_readsBack p read binds plain
  | conditional _ _ _ p first second third => exact conditional_readsBack p first second third
  | call name _ p read => exact call_readsBack p name read
  | join _ labels names p read => exact join_readsBack p read labels names
  | clause _ core _ names p onDataset read =>
    exact clause_readsBack p onDataset core (readClause_text read names)

/-- Trees written by one convention have the same text only if they differ in nothing but what
texts leave out. -/
theorem bare_eq_iff {other : Node} (h : node.Written c) (h' : other.Written c) :
    node.bare = other.bare ↔ node.text = other.text := by
  constructor
  · intro same
    rw [← node.text_bare, same, other.text_bare]
  · intro same
    have ending : Follows closers [] := ⟨breaks_nil, by simp [lex]⟩
    have read := h.readsBack.closed ending
    rw [same] at read
    exact congrArg Prod.fst (read.unique (h'.readsBack.closed ending))

end

end DatasetScript
