import DatasetScript.Pattern.Matcher
import DatasetScript.Proofs.JoinSoundness
import DatasetScript.Script.Engine
/-!
# Soundness of scripts

Checked expressions of scripts are sound, and running a script keeps its bindings well typed. Choices
between datasets are left out, since they hand on rows in a column order of their own. Whatever
`inner` asks of datasets inside cells is kept too. Main statements: `Node.check_sound` and
`evalWith_sound`.
-/

namespace DatasetScript

section

variable [PatternLanguage]

/-! ### Scripts without choices between datasets -/

mutual

/-- No conditional in the node chooses between datasets. -/
def Node.SingleChoices (scope : Scope) : Node → Prop
  | ⟨form, _⟩ => form.SingleChoices scope

def Form.SingleChoices (scope : Scope) : Form → Prop
  | .literal _ | .name _ => True
  | .binary _ left right => left.SingleChoices scope ∧ right.SingleChoices scope
  | .unary _ operand => operand.SingleChoices scope
  | .parenthesis inner => inner.SingleChoices scope
  | .membership _ operand _ => operand.SingleChoices scope
  | .conditional condition thenBranch elseBranch =>
    (condition.SingleChoices scope ∧ thenBranch.SingleChoices scope ∧
      elseBranch.SingleChoices scope) ∧
      ∀ p q, thenBranch.check scope = .ok (.query p) → elseBranch.check scope ≠ .ok (.query q)
  | .call _ _ args => singleArguments scope args
  | .join _ operands _ => singleOperands scope operands
  | .clause dataset clause =>
    dataset.SingleChoices scope ∧ ∀ input, dataset.check scope = .ok (.query input) →
      clause.SingleChoices input.layout.scope

def singleArguments (scope : Scope) : List Node → Prop
  | [] => True
  | node :: rest => node.SingleChoices scope ∧ singleArguments scope rest

def singleOperands (scope : Scope) : List JoinOperand → Prop
  | [] => True
  | ⟨dataset, _⟩ :: rest => dataset.SingleChoices scope ∧ singleOperands scope rest

/-- The scope is that of the rows of the dataset that the clause is applied to. -/
def Clause.SingleChoices (scope : Scope) : Clause → Prop
  | .calculate items => singleCalculations scope items
  | .filter predicate => predicate.SingleChoices scope
  | .rename _ | .keep _ | .drop _ => True
  | .aggregate items _ => singleCollections scope items

def singleCalculations (scope : Scope) : List CalcItem → Prop
  | [] => True
  | ⟨_, _, expression⟩ :: rest => expression.SingleChoices scope ∧ singleCalculations scope rest

def singleCollections (scope : Scope) : List AggregateItem → Prop
  | [] => True
  | ⟨_, _, _, none⟩ :: rest => singleCollections scope rest
  | ⟨_, _, _, some operand⟩ :: rest =>
    operand.SingleChoices scope ∧ singleCollections scope rest

end

/-- No conditional in a statement that is reached chooses between datasets. -/
def Program.SingleChoices : Program → Bindings → Prop
  | [], _ => True
  | statement :: rest, b =>
    statement.expression.SingleChoices b.scope ∧ ∀ v, statement.expression.evaluate b = .ok v →
      SingleChoices rest (Assoc.insert b statement.name v)

variable {inner : Dataset → Prop}

/-! ### Nodes -/

mutual

/-- Checking gives sound expressions. -/
theorem Node.check_sound (scope : Scope) : (node : Node) → node.SingleChoices scope →
    Checks inner scope (node.check scope)
  | ⟨form, position⟩, single =>
    (Yields.locate (form.check_sound scope single)).bind fun _ he => .ok (he.locate position)

theorem Form.check_sound (scope : Scope) : (form : Form) → form.SingleChoices scope →
    Checks inner scope (form.check scope)
  | .literal l, _ => .ok (literal_sound l)
  | .name name, _ => variableNamed_sound name
  | .binary op left right, single =>
    binary_sound op (left.check_sound scope single.1) (right.check_sound scope single.2)
  | .unary op operand, single => unary_sound op (operand.check_sound scope single)
  | .parenthesis node, single => node.check_sound scope single
  | .membership negated operand list, single =>
    membership_sound negated list (operand.check_sound scope single)
  | .conditional condition thenBranch elseBranch, ⟨⟨first, second, third⟩, single⟩ =>
    conditional_sound (condition.check_sound scope first) (thenBranch.check_sound scope second)
      (elseBranch.check_sound scope third) single
  | .call family function args, single =>
    Checking.call_sound family function (arguments_sound scope args single)
  | .join _ operands keys, single =>
    Checking.join_sound keys (operands_sound scope operands single)
  | .clause dataset clause, ⟨single, inClause⟩ => by
    refine Yields.bind_eq fun input given => ?_
    have checked := query_operand given
    have sound : input.Sound inner scope := dataset.check_sound scope single _ checked
    exact (clause.check_sound sound (inClause input checked)).bind fun q hq => .ok hq

theorem arguments_sound (scope : Scope) : (args : List Node) → singleArguments scope args →
    ∀ o ∈ checkArguments scope args, Operand.Sound inner scope o
  | [], _ => List.forall_mem_nil _
  | node :: rest, ⟨first, later⟩ =>
    List.forall_mem_cons.mpr ⟨node.check_sound scope first, arguments_sound scope rest later⟩

theorem operands_sound (scope : Scope) : (operands : List JoinOperand) →
    singleOperands scope operands →
      ∀ o ∈ checkJoinOperands scope operands, Operand.Sound inner scope o.2
  | [], _ => List.forall_mem_nil _
  | ⟨dataset, _⟩ :: rest, ⟨first, later⟩ =>
    List.forall_mem_cons.mpr ⟨dataset.check_sound scope first, operands_sound scope rest later⟩

theorem Clause.check_sound {scope : Scope} {input : Query} (hi : input.Sound inner scope) :
    (clause : Clause) → clause.SingleChoices input.layout.scope →
      Yields (Query.Sound inner scope) (clause.check input)
  | .calculate items, single => Checking.calculate_sound hi (calculations_sound _ items single)
  | .filter predicate, single => Checking.filter_sound hi (predicate.check_sound _ single)
  | .rename items, _ => Checking.rename_sound items hi
  | .keep names, _ => Query.project_sound names hi
  | .drop names, _ => Checking.drop_sound names hi
  | .aggregate items groupBy, single =>
    Checking.aggregate_sound groupBy hi (collections_sound _ items single)

theorem calculations_sound (scope : Scope) : (items : List CalcItem) →
    singleCalculations scope items →
      ∀ c ∈ checkCalculations scope items, Operand.Sound inner scope c.operand
  | [], _ => List.forall_mem_nil _
  | ⟨_, _, expression⟩ :: rest, ⟨first, later⟩ =>
    List.forall_mem_cons.mpr ⟨expression.check_sound scope first, calculations_sound scope rest later⟩

theorem collections_sound (scope : Scope) : (items : List AggregateItem) →
    singleCollections scope items →
      ∀ c ∈ checkCollections scope items, ∀ o ∈ c.operand, Operand.Sound inner scope o
  | [], _ => List.forall_mem_nil _
  | ⟨_, _, _, none⟩ :: rest, single =>
    List.forall_mem_cons.mpr ⟨fun _ absent => (Option.not_mem_none _ absent).elim,
      collections_sound scope rest single⟩
  | ⟨_, _, _, some operand⟩ :: rest, ⟨first, later⟩ =>
    List.forall_mem_cons.mpr ⟨fun _ given => Option.some.inj given ▸ operand.check_sound scope first,
      collections_sound scope rest later⟩

end

/-! ### Programs -/

theorem resolve_safe {node : Node} {b : Bindings} {e : Expr} (single : node.SingleChoices b.scope)
    (typed : b.WellTyped inner) (checked : node.check b.scope = .ok e) :
    Safe (fun v => v.HasType inner e.type?) (e.resolve b.env) :=
  (node.check_sound b.scope single e checked).resolve typed.matches

theorem evaluate_wellTyped {node : Node} {b : Bindings} {v : Value}
    (single : node.SingleChoices b.scope) (typed : b.WellTyped inner)
    (h : node.evaluate b = .ok v) : v.WellTyped inner := by
  obtain ⟨e, checked, resolved⟩ := bind_ok h
  have safe := resolve_safe single typed checked
  rw [resolved] at safe
  exact wellTyped_of_hasType safe

/-- What a first part of a program hands on to the rest. -/
theorem runFrom_hands_on {before rest : Program} {b b' : Bindings} {last v : Value}
    (single : Program.SingleChoices (before ++ rest) b) (typed : b.WellTyped inner)
    (ran : Program.runFrom last before b = (b', .ok v)) :
    rest.SingleChoices b' ∧ b'.WellTyped inner := by
  induction before generalizing b last with
  | nil =>
    cases ran
    exact ⟨single, typed⟩
  | cons statement before ih =>
    obtain ⟨here, later⟩ := single
    unfold Program.runFrom at ran
    split at ran
    · rename_i w evaluated
      exact ih (later w evaluated)
        (typed.insert statement.name (evaluate_wellTyped here typed evaluated)) ran
    · cases ran

theorem runFrom_wellTyped {p : Program} {b : Bindings} {last : Value} (single : p.SingleChoices b)
    (typed : b.WellTyped inner) : (p.runFrom last b).1.WellTyped inner := by
  induction p generalizing b last with
  | nil => exact typed
  | cons statement rest ih =>
    obtain ⟨here, later⟩ := single
    unfold Program.runFrom
    split
    · rename_i w evaluated
      exact ih (later w evaluated)
        (typed.insert statement.name (evaluate_wellTyped here typed evaluated))
    · exact typed

/-- Bindings stay well typed from statement to statement and to the end of a program. A statement
that checks resolves to a value of its static type, or fails for an inherent cause. -/
theorem evalWith_sound (engine : ScriptEngine) {p : Program} {b : Bindings}
    (single : p.SingleChoices b) (typed : b.WellTyped inner) :
    (engine.evalWith p b).1.WellTyped inner ∧
      ∀ before statement after, p = before ++ statement :: after →
        ∀ b' v, engine.evalWith before b = (b', .ok v) → b'.WellTyped inner ∧
          ∀ e, statement.expression.check b'.scope = .ok e →
            (∀ w, e.resolve b'.env = .ok w → w.HasType inner e.type? ∧
              Bindings.WellTyped inner (Assoc.insert b' statement.name w)) ∧
            ∀ error, e.resolve b'.env = .error error → error.cause.Inherent := by
  refine ⟨runFrom_wellTyped single typed, ?_⟩
  rintro before statement after rfl b' v ran
  obtain ⟨⟨here, -⟩, reached⟩ := runFrom_hands_on single typed ran
  refine ⟨reached, fun e checked => ?_⟩
  have safe := resolve_safe here reached checked
  constructor
  · intro w resolved
    rw [resolved] at safe
    exact ⟨safe, reached.insert statement.name (wellTyped_of_hasType safe)⟩
  · intro error failed
    rw [failed] at safe
    exact safe

end

namespace Running

def readingColumns : Structure :=
  ⟨[⟨"id", .string, .identifier⟩, ⟨"x", .number, .measure⟩], by decide⟩

def readings : Dataset := ⟨readingColumns, [⟨readingColumns, [.string "a", .integer 1]⟩]⟩

def bindings : Bindings := [("readings", .dataset readings)]

def plain (form : Form) : Node := ⟨form, none⟩

def integer (i : Int64) : Node := plain (.literal (.integer i))

/-- The statement `kept := readings[keep x]`. -/
def keeping : Statement := ⟨"kept", plain (.clause (plain (.name "readings")) (.keep ["x"]))⟩

/-- The statement `part := substr("abc", 1, -1)`. -/
def cutting : Statement :=
  ⟨"part", plain (.call .string "substr"
    [plain (.literal (.string "abc")), integer 1, plain (.unary .minus (integer 1))])⟩

def engine : ScriptEngine := ⟨.standard, []⟩

/-- The bindings after the first statement. -/
def kept : Bindings := (engine.evalWith [keeping] bindings).1

end Running

open Running in
theorem negative_length_inherent :
    (engine.evalWith [keeping, cutting] bindings).1.WellTyped (fun _ => True) ∧
      ∃ e error, cutting.expression.check kept.scope = .ok e ∧
        e.resolve kept.env = .error error ∧ error.cause.Inherent := by
  have single : Program.SingleChoices [keeping, cutting] bindings := by
    simp [Program.SingleChoices, keeping, cutting, plain, integer, Node.SingleChoices,
      Form.SingleChoices, Clause.SingleChoices, singleArguments]
  have typed : Bindings.WellTyped (fun _ => True) bindings := by
    intro name v found
    simp only [Bindings.env, bindings, Assoc.find?_cons, Assoc.find?_nil] at found
    split at found
    · cases found
      intro r member
      cases List.mem_singleton.mp member
      exact ⟨rfl, .cons ⟨rfl, nofun⟩ (.cons ⟨rfl, nofun⟩ .nil)⟩
    · cases found
  obtain ⟨final, each⟩ := evalWith_sound engine single typed
  obtain ⟨-, outcome⟩ := each [keeping] cutting [] rfl kept _ rfl
  exact ⟨final, _, _, rfl, rfl, (outcome _ rfl).2 _ rfl⟩

end DatasetScript
