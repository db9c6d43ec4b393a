import DatasetScript.Checking.Node
import DatasetScript.Pattern.Matcher
import DatasetScript.Proofs.Outcome
import Mathlib.Data.Fintype.Option
/-!
# Three-valued logic

NULL stands for a truth value that is not known. What is true or false while some variables are NULL
stays so when they get a truth value. The right side of an exclusive disjunction is resolved only if
the left one is known, so that getting to know the left side may bring up a variable on the right
that is not bound, or not to a truth value. Main statement: `known_stays`.
-/

namespace DatasetScript

/-! ### Nodes as formulas -/

section

variable {t : ScalarType} {scope : Scope}

/-- The expression has the type and meaning of the formula, or is the NULL literal in its place. -/
inductive Expr.CountsAs : Formula t → Expr → Prop
  | null : Expr.CountsAs .null .null
  | scalar (f : Formula t) : Expr.CountsAs f (.scalar t f)

namespace Expr.CountsAs

variable {f : Formula t} {e : Expr}

theorem asFormula (h : e.CountsAs f) (node : Node) : e.asFormula t node = .ok f := by
  cases h with
  | null => rfl
  | scalar => simp [Expr.asFormula]

theorem resolve (h : e.CountsAs f) (env : Env) : e.resolve env = f.resolve env := by
  cases h <;> rfl

theorem locate (h : e.CountsAs f) (p : Option Position) : (e.locate p).CountsAs (f.locate p) := by
  cases h with
  | null => exact .null
  | scalar => exact .scalar _

end Expr.CountsAs

variable [PatternLanguage]

/-- The node is accepted, and counts as the formula. -/
def Node.Means (scope : Scope) (node : Node) (f : Formula t) : Prop :=
  ∃ e, node.check scope = .ok e ∧ e.CountsAs f

theorem means_of_form {form : Form} {e : Expr} {f : Formula t} (p : Option Position)
    (checked : form.check scope = .ok e) (h : e.CountsAs f) :
    Node.Means scope ⟨form, p⟩ (f.locate p) := by
  refine ⟨e.locate p, ?_, h.locate p⟩
  rw [Node.check, checked]
  rfl

namespace Node.Means

variable {node left right : Node}

theorem formula {f : Formula t} (h : node.Means scope f) :
    Operand.formula t ⟨node, node.check scope⟩ = .ok f := by
  obtain ⟨e, checked, h⟩ := h
  rw [Operand.formula, checked]
  exact h.asFormula node

theorem parenthesis {f : Formula t} (h : node.Means scope f) (p : Option Position) :
    Node.Means scope ⟨.parenthesis node, p⟩ (f.locate p) := by
  obtain ⟨e, checked, h⟩ := h
  exact means_of_form p checked h

end Node.Means

end

/-! ### Connectives -/

def LogicalOp.combine (op : LogicalOp) (f g : Formula .boolean) : Formula .boolean :=
  match op with
  | .and => Checking.conjunction f g
  | .or => Checking.disjunction f g
  | .xor => f.zip g fun a b => some (a != b)

def Formula.negate (f : Formula .boolean) : Formula .boolean := f.map fun b => some (!b)

theorem check_logical [PatternLanguage] {scope : Scope} {left right : Node} {f g : Formula .boolean}
    (op : LogicalOp) (p : Option Position) (first : left.Means scope f)
    (second : right.Means scope g) : Node.check scope ⟨.binary (.logical op) left right, p⟩ =
      .ok (.scalar .boolean ((op.combine f g).locate p)) := by
  rw [Node.check, Form.check, Checking.binary, Checking.logical, first.formula, second.formula]
  cases op <;> rfl

theorem not_means [PatternLanguage] {scope : Scope} {operand : Node} {f : Formula .boolean}
    (p : Option Position) (h : operand.Means scope f) :
    Node.Means scope ⟨.unary .not operand, p⟩ (f.negate.locate p) := by
  refine means_of_form p ?_ (.scalar _)
  simp only [Form.check, Checking.unary, h.formula]
  rfl

/-! ### Trees -/

/-- A tree of logical operators over truth values, NULL and variables. -/
inductive LogicTree where
  | null (p : Option Position)
  | literal (b : Bool) (p : Option Position)
  | name (name : String) (p : Option Position)
  | parenthesis (inner : LogicTree) (p : Option Position)
  | not (operand : LogicTree) (p : Option Position)
  | binary (op : LogicalOp) (left right : LogicTree) (p : Option Position)

namespace LogicTree

def node : LogicTree → Node
  | null p => ⟨.literal .null, p⟩
  | literal b p => ⟨.literal (.boolean b), p⟩
  | name x p => ⟨.name x, p⟩
  | parenthesis inner p => ⟨.parenthesis inner.node, p⟩
  | not operand p => ⟨.unary .not operand.node, p⟩
  | binary op left right p => ⟨.binary (.logical op) left.node right.node, p⟩

/-- The names of variables. -/
def names : LogicTree → List String
  | null _ | literal _ _ => []
  | name x _ => [x]
  | parenthesis inner _ => inner.names
  | not operand _ => operand.names
  | binary _ left right _ => left.names ++ right.names

/-- The names of the variables that stand on the right side of an exclusive disjunction. -/
def rightOfXor : LogicTree → List String
  | null _ | literal _ _ | name _ _ => []
  | parenthesis inner _ => inner.rightOfXor
  | not operand _ => operand.rightOfXor
  | binary .xor left right _ => left.rightOfXor ++ right.names
  | binary _ left right _ => left.rightOfXor ++ right.rightOfXor

theorem rightOfXor_subset (t : LogicTree) : t.rightOfXor ⊆ t.names := by
  induction t with
  | null | literal | name => exact List.nil_subset _
  | parenthesis inner p ih => exact ih
  | not operand p ih => exact ih
  | binary op left right p first second =>
    cases op <;>
      simp only [rightOfXor, names, List.append_subset, List.subset_append_of_subset_left _ first,
        List.subset_append_of_subset_right _ second, List.subset_append_right, and_self]

/-- What the tree means, with the positions of its nodes attached to failures. -/
def formula : LogicTree → Formula .boolean
  | null p => Formula.null.locate p
  | literal b p => (Formula.constant (some b)).locate p
  | name x p => (Formula.ofValues .boolean (Checking.boundValue x)).locate p
  | parenthesis inner p => inner.formula.locate p
  | not operand p => operand.formula.negate.locate p
  | binary op left right p => (op.combine left.formula right.formula).locate p

theorem means [PatternLanguage] {scope : Scope} {t : LogicTree}
    (declared : ∀ name ∈ t.names, scope name = some (.column .boolean)) :
    t.node.Means scope t.formula := by
  induction t with
  | null p => exact means_of_form p rfl .null
  | literal b p => exact means_of_form p rfl (.scalar _)
  | name x p =>
    refine means_of_form p ?_ (.scalar _)
    rw [Form.check, Checking.variableNamed, declared x List.mem_cons_self]
    rfl
  | parenthesis inner p ih => exact (ih declared).parenthesis p
  | not operand p ih => exact not_means p (ih declared)
  | binary op left right p first second =>
    have onLeft := first fun x member => declared x (List.mem_append_left _ member)
    have onRight := second fun x member => declared x (List.mem_append_right _ member)
    exact ⟨_, check_logical op p onLeft onRight, .scalar _⟩

end LogicTree

/-! ### Failures -/

/-- The variable cannot be read as a truth value, and this is why. -/
inductive Env.Refuses (env : Env) (name : String) : Cause → Prop
  | unbound (missing : env name = none) : env.Refuses name (.resolutionFailure (.unbound name))
  | mistyped {v : Value} (bound : env name = some v) (known : v ≠ .null)
      (other : v.type? ≠ some .boolean) :
      env.Refuses name (.typeMismatch (.type (some .boolean)) (.type v.type?) "resolution")

/-- If the computation fails, it is for one of the given causes. -/
def FailsFor {α : Type} (causes : Cause → Prop) (x : Except Error α) : Prop :=
  ∀ e, x = .error e → causes e.cause

namespace FailsFor

variable {α β : Type} {causes others : Cause → Prop} {x : Except Error α}

theorem ok (a : α) : FailsFor causes (.ok a) := by
  intro e failed
  cases failed

theorem error {e : Error} (h : causes e.cause) : FailsFor causes (.error e : Except Error α) := by
  intro _ failed
  cases failed
  exact h

theorem bind {f : α → Except Error β} (first : FailsFor causes x)
    (later : ∀ a, FailsFor causes (f a)) : FailsFor causes (x >>= f) := by
  cases x with
  | error e => exact error (first e rfl)
  | ok a => exact later a

theorem locate (h : FailsFor causes x) (p : Option Position) : FailsFor causes (locate p x) := by
  cases x with
  | error e => exact error (h e rfl)
  | ok a => exact ok a

theorem mono (h : FailsFor causes x) (more : ∀ c, causes c → others c) : FailsFor others x :=
  fun e failed => more _ (h e failed)

end FailsFor

theorem variable_failsFor (env : Env) (name : String) :
    FailsFor (env.Refuses name) (Formula.ofValues .boolean (Checking.boundValue name) env) := by
  unfold Formula.ofValues Checking.boundValue
  cases bound : env name with
  | none => exact .error (.unbound bound)
  | some v =>
    cases v with
    | null => exact .ok _
    | boolean b => exact .ok _
    | _ => exact .error (.mistyped bound nofun nofun)

/-- Both sides may be resolved, or the left one only. -/
theorem combine_failsFor {causes : Cause → Prop} {env : Env} {f g : Formula .boolean}
    (op : LogicalOp) (first : FailsFor causes (f env)) (second : FailsFor causes (g env)) :
    FailsFor causes (op.combine f g env) := by
  cases op with
  | and =>
    refine first.bind fun a => ?_
    split
    · exact .ok _
    · exact second.bind fun b => .ok _
  | or =>
    refine first.bind fun a => ?_
    split
    · exact .ok _
    · exact second.bind fun b => .ok _
  | xor =>
    refine first.bind fun a => ?_
    cases a with
    | none => exact .ok _
    | some a =>
      refine second.bind fun b => ?_
      cases b <;> exact .ok _

/-- The environment cannot give one of the variables as a truth value. -/
def Env.RefusesOne (env : Env) (names : List String) (cause : Cause) : Prop :=
  ∃ name ∈ names, env.Refuses name cause

theorem Env.RefusesOne.mono {env : Env} {names more : List String} (within : names ⊆ more)
    (cause : Cause) (h : env.RefusesOne names cause) : env.RefusesOne more cause :=
  h.imp fun _ h => ⟨within h.1, h.2⟩

theorem LogicTree.failsFor (env : Env) (t : LogicTree) :
    FailsFor (env.RefusesOne t.names) (t.formula env) := by
  induction t with
  | null p => exact .ok _
  | literal b p => exact .ok _
  | name x p =>
    exact ((variable_failsFor env x).mono fun c h => ⟨x, List.mem_cons_self, h⟩).locate p
  | parenthesis inner p ih => exact ih.locate p
  | not operand p ih => exact (ih.bind fun _ => .ok _).locate p
  | binary op left right p first second =>
    exact (combine_failsFor op (first.mono <| .mono <| List.subset_append_left _ _)
      (second.mono <| .mono <| List.subset_append_right _ _)).locate p

/-! ### Getting to know more -/

/-- The second environment gives truth values to some variables that are NULL in the first one. -/
def Env.InformedBy (env env' : Env) : Prop :=
  ∀ name, env' name = env name ∨ env name = some .null ∧ ∃ b, env' name = some (.boolean b)

/-- A variable that is not bound to a truth value or NULL stays as it is. -/
theorem Env.InformedBy.refuses {env env' : Env} (informed : env.InformedBy env') {name : String}
    {cause : Cause} (h : env'.Refuses name cause) : env.Refuses name cause := by
  obtain same | ⟨-, b, known⟩ := informed name
  · cases h with
    | unbound missing => exact .unbound (same ▸ missing)
    | mistyped bound known other => exact .mistyped (same ▸ bound) known other
  · cases h with
    | unbound missing => cases known.symm.trans missing
    | mistyped bound _ other =>
      cases known.symm.trans bound
      exact (other rfl).elim

/-- The second truth value is the first one, unless that is not known. -/
abbrev StaysKnown (a b : Option Bool) : Prop := a = none ∨ a = b

theorem kleeneAnd_staysKnown : ∀ a a' b b' : Option Bool, StaysKnown a a' → StaysKnown b b' →
    StaysKnown (Checking.kleeneAnd a b) (Checking.kleeneAnd a' b') := by decide

theorem kleeneOr_staysKnown : ∀ a a' b b' : Option Bool, StaysKnown a a' → StaysKnown b b' →
    StaysKnown (Checking.kleeneOr a b) (Checking.kleeneOr a' b') := by decide

/-- If the first computation gives a known truth value, the second one gives the same or fails for
one of the causes. -/
def Kept (causes : Cause → Prop) (x y : Except Error (Option Bool)) : Prop :=
  ∀ a, x = .ok a →
    (∃ b, y = .ok b ∧ StaysKnown a b) ∨ ∃ e, y = .error e ∧ causes e.cause

namespace Kept

variable {causes others : Cause → Prop} {x y : Except Error (Option Bool)}

theorem same : Kept causes x x := fun a made => .inl ⟨a, made, .inr rfl⟩

theorem mono (h : Kept causes x y) (more : ∀ c, causes c → others c) : Kept others x y :=
  fun a made => (h a made).imp_right fun ⟨e, failed, known⟩ => ⟨e, failed, more _ known⟩

theorem locate (h : Kept causes x y) (p : Option Position) :
    Kept causes (locate p x) (locate p y) := by
  intro a made
  rcases h a (locate_eq_ok_iff.mp made) with ⟨b, given, stays⟩ | ⟨e, failed, known⟩
  · exact .inl ⟨b, locate_eq_ok_iff.mpr given, stays⟩
  · exact .inr ⟨e.locate p, by rw [failed, locate_error], known⟩

/-- A result that is not known leaves open all but the causes of a failure. -/
theorem of_unknown (fails : FailsFor causes y) : Kept causes (.ok none) y := by
  rintro _ ⟨⟩
  cases y with
  | error e => exact .inr ⟨e, rfl, fails e rfl⟩
  | ok b => exact .inl ⟨b, rfl, .inl rfl⟩

/-- A function of the truth value, if that is known. -/
theorem bind (h : Kept causes x y) (k : Bool → Option Bool) :
    Kept causes (x >>= fun a => pure (a.bind k)) (y >>= fun a => pure (a.bind k)) := by
  intro c made
  obtain ⟨a, given, made⟩ := bind_ok made
  rw [pure_ok made]
  rcases h a given with ⟨b, given', stays⟩ | ⟨e, failed, known⟩
  · refine .inl ⟨b.bind k, by rw [given']; rfl, ?_⟩
    rcases stays with rfl | rfl
    · exact .inl rfl
    · exact .inr rfl
  · exact .inr ⟨e, by rw [failed]; rfl, known⟩

end Kept

section

variable {causes : Cause → Prop} {env env' : Env} {f g : Formula .boolean}

theorem xor_of_left {a : Bool} (known : f env = .ok (some a)) : LogicalOp.xor.combine f g env =
    g env >>= fun b => pure (b.bind fun b => some (a != b)) := by
  rw [LogicalOp.combine, Formula.zip, known, ok_bind]
  cases g env with
  | error e => rfl
  | ok b => cases b <;> rfl

/-- An operator that the value `decisive` of the left side decides without the right one. -/
def shortened (decisive : Bool) (op : Option Bool → Option Bool → Option Bool)
    (f g : Formula .boolean) : Formula .boolean := fun env => do
  let a : Option Bool ← f env
  if a = some decisive then return some decisive else return op a (← g env)

theorem shortened_ok (decisive : Bool) {op : Option Bool → Option Bool → Option Bool}
    {a b : Option Bool} (decides : ∀ b, op (some decisive) b = some decisive)
    (first : f env = .ok a) (second : g env = .ok b) :
    shortened decisive op f g env = .ok (op a b) := by
  rw [shortened, first, ok_bind, second]
  split
  · next decided => rw [decided, decides]; rfl
  · rfl

theorem shortened_kept (decisive : Bool) {op : Option Bool → Option Bool → Option Bool}
    (decides : ∀ b, op (some decisive) b = some decisive)
    (stays : ∀ a a' b b', StaysKnown a a' → StaysKnown b b' → StaysKnown (op a b) (op a' b'))
    (first : Kept causes (f env) (f env')) (second : Kept causes (g env) (g env')) :
    Kept causes (shortened decisive op f g env) (shortened decisive op f g env') := by
  intro c made
  obtain ⟨a, left, made⟩ := bind_ok made
  rcases first a left with ⟨a', left', more⟩ | ⟨e, failed, known⟩
  · unfold shortened
    rw [left', ok_bind]
    by_cases decided : a' = some decisive
    · rw [if_pos decided]
      refine .inl ⟨some decisive, rfl, ?_⟩
      split at made
      · exact .inr (pure_ok made)
      · obtain ⟨b, -, made⟩ := bind_ok made
        have open' := stays a a' b b more (.inr rfl)
        rwa [decided, decides, ← pure_ok made] at open'
    · have undecided : a ≠ some decisive := by
        rintro rfl
        exact decided (more.resolve_left nofun).symm
      rw [if_neg undecided] at made
      rw [if_neg decided]
      obtain ⟨b, right, made⟩ := bind_ok made
      rw [pure_ok made]
      rcases second b right with ⟨b', right', more'⟩ | ⟨e, failed, known⟩
      · exact .inl ⟨op a' b', by rw [right']; rfl, stays _ _ _ _ more more'⟩
      · exact .inr ⟨e, by rw [failed]; rfl, known⟩
  · exact .inr ⟨e, by rw [shortened, failed]; rfl, known⟩

/-- The right side of an exclusive disjunction may come to be resolved, and fail. -/
theorem xor_kept (first : Kept causes (f env) (f env')) (second : Kept causes (g env) (g env'))
    (reads : FailsFor causes (g env')) :
    Kept causes (LogicalOp.xor.combine f g env) (LogicalOp.xor.combine f g env') := by
  intro c made
  obtain ⟨a, left, -⟩ := bind_ok made
  rcases first a left with ⟨a', left', more⟩ | ⟨e, failed, known⟩
  · cases a with
    | none =>
      have unknown : LogicalOp.xor.combine f g env = .ok none := by
        rw [LogicalOp.combine, Formula.zip, left]
        rfl
      have reads' : FailsFor causes (f env') := left' ▸ .ok a'
      exact Kept.of_unknown (combine_failsFor .xor reads' reads) c (unknown ▸ made)
    | some a =>
      obtain rfl := more.resolve_left nofun
      rw [xor_of_left left] at made
      rw [xor_of_left left']
      exact second.bind (fun b => some (a != b)) c made
  · exact .inr ⟨e, by rw [LogicalOp.combine, Formula.zip, failed]; rfl, known⟩

end

theorem LogicTree.kept {env env' : Env} (informed : env.InformedBy env') (t : LogicTree) :
    Kept (env.RefusesOne t.rightOfXor) (t.formula env) (t.formula env') := by
  induction t with
  | null p => exact .same
  | literal b p => exact .same
  | name x p =>
    refine Kept.locate ?_ p
    unfold Formula.ofValues Checking.boundValue
    obtain same | ⟨unknown, b, known⟩ := informed x
    · rw [same]
      exact .same
    · rw [unknown, known]
      exact .of_unknown (.ok _)
  | parenthesis inner p ih => exact ih.locate p
  | not operand p ih => exact (ih.bind fun b => some (!b)).locate p
  | binary op left right p first second =>
    refine Kept.locate ?_ p
    have onLeft {rest : List String} := first.mono (Env.RefusesOne.mono
      (List.subset_append_left left.rightOfXor rest))
    cases op with
    | and =>
      exact shortened_kept false (fun b => rfl) kleeneAnd_staysKnown onLeft
        (second.mono <| .mono <| List.subset_append_right _ _)
    | or =>
      exact shortened_kept true (fun b => rfl) kleeneOr_staysKnown onLeft
        (second.mono <| .mono <| List.subset_append_right _ _)
    | xor =>
      -- All of the right side may be resolved for the first time.
      have within := List.Subset.trans right.rightOfXor_subset
        (List.subset_append_right left.rightOfXor _)
      have reads : FailsFor (env.RefusesOne right.names) (right.formula env') :=
        (right.failsFor env').mono fun c => .imp fun x h => ⟨h.1, informed.refuses h.2⟩
      exact xor_kept onLeft (second.mono <| .mono within)
        (reads.mono <| .mono <| List.subset_append_right _ _)

/-! ### Main statement -/

/-- A tree over variables that are declared Boolean is accepted. Where it is true or false, it stays
so when variables that are NULL get truth values, unless it comes to fail on a variable that stands
on the right side of an exclusive disjunction and was bound to neither a truth value nor NULL. -/
theorem known_stays [PatternLanguage] {t : LogicTree} {scope : Scope} {env env' : Env}
    (declared : ∀ name ∈ t.names, scope name = some (.column .boolean))
    (informed : env.InformedBy env') :
    ∃ e, t.node.check scope = .ok e ∧ ∀ b, e.resolve env = .ok (.boolean b) →
      e.resolve env' = .ok (.boolean b) ∨
      ∃ error, e.resolve env' = .error error ∧ env.RefusesOne t.rightOfXor error.cause := by
  obtain ⟨e, checked, counts⟩ := t.means declared
  refine ⟨e, checked, fun b known => ?_⟩
  rw [counts.resolve] at known ⊢
  obtain ⟨a, given, made⟩ := bind_ok known
  cases a with
  | none => cases pure_ok made
  | some a =>
    cases pure_ok made
    rcases t.kept informed (some b) given with ⟨a', given', more⟩ | ⟨error, failed, refused⟩
    · obtain rfl := more.resolve_left nofun
      exact .inl (by rw [Formula.resolve, given']; rfl)
    · exact .inr ⟨error, by rw [Formula.resolve, failed]; rfl, refused⟩

namespace Alarms

/-- The expression `(smoke xor silenced) or true`. -/
def alarm : LogicTree :=
  .binary .or (.parenthesis (.binary .xor (.name "smoke" none) (.name "silenced" none) none) none)
    (.literal true none) none

def declarations : Bindings := [("smoke", .boolean true), ("silenced", .boolean true)]

def before : Bindings := [("smoke", .null), ("silenced", .boolean false)]

def after : Bindings := [("smoke", .boolean true), ("silenced", .boolean false)]

theorem declared :
    ∀ name ∈ alarm.names, declarations.scope name = some (.column .boolean) := by decide

theorem informed (rest : Bindings) :
    Env.InformedBy (Bindings.env (("smoke", .null) :: rest))
      (Bindings.env (("smoke", .boolean true) :: rest)) := by
  intro name
  by_cases same : "smoke" = name
  · subst same
    exact .inr ⟨rfl, true, rfl⟩
  · simp only [Bindings.env, Assoc.find?_cons, if_neg same, true_or]

end Alarms

open Alarms in
theorem alarm_stays_on :
    (∀ name ∈ alarm.names, declarations.scope name = some (.column .boolean)) ∧
      before.env.InformedBy after.env ∧
      ∃ e, alarm.node.check declarations.scope = .ok e ∧
        e.resolve before.env = .ok (.boolean true) ∧
        e.resolve after.env = .ok (.boolean true) := by
  obtain ⟨e, checked, stays⟩ := known_stays declared (informed [("silenced", .boolean false)])
  cases checked
  refine ⟨declared, informed _, _, rfl, rfl, (stays true rfl).resolve_right ?_⟩
  rintro ⟨error, failed, -⟩
  cases failed

open Alarms in
/-- The variable `silenced` is not bound. Whether it matters is known only after `smoke` is. -/
theorem known_may_fail :
    (∀ name ∈ alarm.names, declarations.scope name = some (.column .boolean)) ∧
      Env.InformedBy (Bindings.env [("smoke", .null)]) (Bindings.env [("smoke", .boolean true)]) ∧
      ∃ e, alarm.node.check declarations.scope = .ok e ∧
        e.resolve (Bindings.env [("smoke", .null)]) = .ok (.boolean true) ∧
        e.resolve (Bindings.env [("smoke", .boolean true)]) =
          .error ⟨.resolutionFailure (.unbound "silenced"), none⟩ :=
  ⟨declared, informed [], _, rfl, rfl, rfl⟩

end DatasetScript
