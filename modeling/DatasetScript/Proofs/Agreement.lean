import DatasetScript.Proofs.Likeness
/-!
# Agreeing expressions

Two expressions agree if they have one type and, resolved in a pair of environments, give the same
value or both fail. Which pairs of environments count is a parameter, and so is how alike their
errors must be. Main statements: `Agree.bind` sequences agreeing computations,
`Expr.Agree.resolve` resolves agreeing expressions, and `formula_agree`, `numeric_agree` and
`query_agree` say that agreeing operands provide the same.
-/

namespace DatasetScript

/-! ### Agreeing outcomes -/

/-- Both computations succeed with related results, or both fail with alike errors. -/
def Agree {α β : Type} (like : Likeness) (p : α → β → Prop) : Except Error α → Except Error β → Prop
  | .ok a, .ok b => p a b
  | .error e, .error e' => like.errors e e'
  | _, _ => False

namespace Agree

variable {α β γ δ : Type} {like : Likeness} {p : α → β → Prop} {q : γ → δ → Prop}
  {x : Except Error α} {y : Except Error β}

/-- Errors about alike nodes, for causes that differ at most in the texts that they quote. -/
theorem refused {c c' : Cause} {node node' : Node} (nodes : like.Nodes node node')
    (kind : c.kind = c'.kind) (same : like.texts → c = c') :
    Agree like p (.error ⟨c, node.position⟩) (.error ⟨c', node'.position⟩) :=
  Likeness.errors_at nodes.positions kind same

theorem same_error (e : Error) (unplaced : e.position = none) :
    Agree like p (.error e) (.error e) := Likeness.errors_self unplaced

theorem unplaced {x : Except Error α} (h : Unplaced x) : Agree like Eq x x := by
  cases x with
  | error e => exact same_error e (h e rfl)
  | ok a => exact rfl

theorem refl (reflexive : like.Reflexive) (x : Except Error α) : Agree like Eq x x := by
  cases x with
  | error e => exact reflexive.errors e
  | ok a => exact rfl

theorem bind {f : α → Except Error γ} {g : β → Except Error δ} (first : Agree like p x y)
    (later : ∀ a b, p a b → Agree like q (f a) (g b)) : Agree like q (x >>= f) (y >>= g) := by
  cases x <;> cases y
  case error.error => exact first
  case ok.ok a b => exact later a b first
  all_goals exact first.elim

/-- The results are used in one way. -/
theorem bind_same {x y : Except Error α} {f : α → Except Error γ} {g : α → Except Error δ}
    (first : Agree like Eq x y) (later : ∀ a, Agree like q (f a) (g a)) :
    Agree like q (x >>= f) (y >>= g) :=
  first.bind fun a _ same => same ▸ later a

theorem locate {position position' : Option Position} (places : like.positions position position')
    (h : Agree like p x y) : Agree like p (locate position x) (locate position' y) := by
  cases x <;> cases y
  case error.error => exact like.located h places
  case ok.ok a b => exact h
  all_goals exact h.elim

theorem mapM {r : α → β → Prop} {f : α → Except Error γ} {g : β → Except Error δ} {xs : List α}
    {ys : List β} (related : List.Forall₂ r xs ys) (each : ∀ a b, r a b → Agree like q (f a) (g b)) :
    Agree like (List.Forall₂ q) (xs.mapM f) (ys.mapM g) := by
  induction related with
  | nil => exact List.Forall₂.nil
  | cons first _ ih =>
    rw [List.mapM_cons, List.mapM_cons]
    refine (each _ _ first).bind fun c d head => ?_
    exact ih.bind fun cs ds tail => List.Forall₂.cons head tail

theorem mapM_eq {r : α → β → Prop} {f : α → Except Error γ} {g : β → Except Error γ} {xs : List α}
    {ys : List β} (related : List.Forall₂ r xs ys) (each : ∀ a b, r a b → Agree like Eq (f a) (g b)) :
    Agree like Eq (xs.mapM f) (ys.mapM g) := by
  have results := Agree.mapM related each
  rwa [List.forall₂_eq_eq_eq] at results

theorem mapM_same {f g : α → Except Error γ} (xs : List α) (each : ∀ a, Agree like Eq (f a) (g a)) :
    Agree like Eq (xs.mapM f) (xs.mapM g) := by
  refine mapM_eq (r := Eq) (List.forall₂_same.mpr fun _ _ => rfl) ?_
  rintro a _ rfl
  exact each a

/-- Both fail with alike errors, or both succeed. -/
theorem alike (h : Agree like p x y) :
    (∃ e e', x = .error e ∧ y = .error e' ∧ like.errors e e') ∨
      ∃ a b, x = .ok a ∧ y = .ok b ∧ p a b := by
  cases x <;> cases y
  case error.error e e' => exact .inl ⟨e, e', rfl, rfl, h⟩
  case ok.ok a b => exact .inr ⟨a, b, rfl, rfl, h⟩
  all_goals exact h.elim

/-- Both fail with one error, or both succeed. -/
theorem outcomes (h : Agree .exact p x y) :
    (∃ e, x = .error e ∧ y = .error e) ∨ ∃ a b, x = .ok a ∧ y = .ok b ∧ p a b := by
  refine h.alike.imp_left ?_
  rintro ⟨e, _, failed, failed', rfl⟩
  exact ⟨e, failed, failed'⟩

/-- Agreement up to errors, with equal results, is equality. -/
theorem eq {x y : Except Error α} (h : Agree .exact Eq x y) : x = y := by
  obtain ⟨e, first, second⟩ | ⟨a, b, first, second, same⟩ := h.outcomes
  · rw [first, second]
  · rw [first, second, same]

end Agree

/-! ### Agreeing expressions -/

section

variable (like : Likeness) (pair : Env → Env → Prop)

def Formula.Agree {t : ScalarType} (f g : Formula t) : Prop :=
  ∀ env env', pair env env' → DatasetScript.Agree like Eq (f env) (g env')

/-- The queries have one structure and give the same datasets. -/
def Query.Agree (q r : Query) : Prop :=
  q.layout = r.layout ∧
    ∀ env env', pair env env' → DatasetScript.Agree like Eq (q.run env) (r.run env')

inductive Expr.Agree : Expr → Expr → Prop
  | null : Expr.Agree .null .null
  | scalar {t : ScalarType} {f g : Formula t} (h : f.Agree like pair g) :
    Expr.Agree (.scalar t f) (.scalar t g)
  | query {q r : Query} (h : q.Agree like pair r) : Expr.Agree (.query q) (.query r)

inductive Numeric.Agree : Numeric → Numeric → Prop
  | integer {f g : Formula .integer} (h : f.Agree like pair g) :
    Numeric.Agree (.integer f) (.integer g)
  | number {f g : Formula .number} (h : f.Agree like pair g) :
    Numeric.Agree (.number f) (.number g)

/-- A text literal is checked to its text. Patterns are read from the literals themselves. -/
def Operand.Faithful (o : Operand) : Prop :=
  ∀ text, o.node.textLiteral? = some text → o.expr = .ok (.scalar .string (.constant (some text)))

/-- The operands are checked to agreeing expressions, and errors about them are alike. -/
structure Operand.Agree (o o' : Operand) : Prop where
  nodes : like.Nodes o.node o'.node
  expr : DatasetScript.Agree like (Expr.Agree like pair) o.expr o'.expr
  faithful : o.Faithful
  faithful' : o'.Faithful

/-- Two checks give agreeing expressions. -/
abbrev ChecksAgree : Except Error Expr → Except Error Expr → Prop :=
  Agree like (Expr.Agree like pair)

end

variable {like : Likeness} {pair : Env → Env → Prop}

section

variable {t u v : ScalarType} {e e' : Expr}

theorem Expr.Agree.refl (reflexive : like.Reflexive) (e : Expr) : e.Agree like Eq e := by
  cases e with
  | null => exact .null
  | scalar t f => exact .scalar fun env _ same => same ▸ .refl reflexive (f env)
  | query q => exact .query ⟨rfl, fun env _ same => same ▸ .refl reflexive (q.run env)⟩

theorem checks_agree_self (reflexive : like.Reflexive) (x : Except Error Expr) :
    ChecksAgree like Eq x x := by
  cases x with
  | error error => exact reflexive.errors error
  | ok e => exact Expr.Agree.refl reflexive e

theorem Expr.Agree.type_eq (h : e.Agree like pair e') : e.type? = e'.type? := by
  cases h <;> rfl

theorem Expr.Agree.isNull_eq (h : e.Agree like pair e') : e.isNull = e'.isNull := by
  cases h <;> rfl

theorem Expr.Agree.resolve (h : e.Agree like pair e') {env env' : Env} (paired : pair env env') :
    DatasetScript.Agree like Eq (e.resolve env) (e'.resolve env') := by
  cases h with
  | null => exact rfl
  | scalar h => exact (h env env' paired).bind_same fun _ => rfl
  | query h => exact (h.2 env env' paired).bind_same fun _ => rfl

theorem Expr.Agree.locate {p p' : Option Position} (places : like.positions p p')
    (h : e.Agree like pair e') : (e.locate p).Agree like pair (e'.locate p') := by
  cases h with
  | null => exact .null
  | scalar h => exact .scalar fun env env' paired => (h env env' paired).locate places
  | query h => exact .query ⟨h.1, fun env env' paired => (h.2 env env' paired).locate places⟩

/-! ### Positions of nodes -/

/-- What the outcome of checking a form becomes at the position of its node. -/
def placed (p : Option Position) (x : Except Error Expr) : Except Error Expr := do
  return (← DatasetScript.locate p x).locate p

theorem Expr.locate_none (e : Expr) : e.locate none = e := by
  cases e with
  | null => rfl
  | scalar t f =>
    have same : f.locate none = f := funext fun env => DatasetScript.locate_none (f env)
    exact congrArg (Expr.scalar t) same
  | query q =>
    have same : (fun env => DatasetScript.locate none (q.run env)) = q.run :=
      funext fun env => DatasetScript.locate_none (q.run env)
    exact congrArg (fun run => Expr.query ⟨q.layout, run⟩) same

theorem placed_none (x : Except Error Expr) : placed none x = x := by
  unfold placed
  rw [locate_none]
  cases x with
  | error e => rfl
  | ok e => exact congrArg Except.ok e.locate_none

theorem placed_agree {x y : Except Error Expr} {p p' : Option Position}
    (places : like.positions p p') (h : ChecksAgree like pair x y) :
    ChecksAgree like pair (placed p x) (placed p' y) :=
  (h.locate places).bind fun _ _ agree => agree.locate places

theorem eq_of_textLiteral? {node : Node} {text : String} (h : node.textLiteral? = some text) :
    ∃ p, node = ⟨.literal (.string text), p⟩ := by
  unfold Node.textLiteral? at h
  split at h
  · cases h
    exact ⟨_, rfl⟩
  · cases h

section

variable [PatternLanguage]

theorem check_eq_placed (scope : Scope) (form : Form) (p : Option Position) :
    Node.check scope ⟨form, p⟩ = placed p (form.check scope) := by
  unfold Node.check
  rfl

theorem form_agree {scope scope' : Scope} (form form' : Form) {p p' : Option Position}
    (places : like.positions p p')
    (h : ChecksAgree like pair (form.check scope) (form'.check scope')) :
    ChecksAgree like pair (Node.check scope ⟨form, p⟩) (Node.check scope' ⟨form', p'⟩) := by
  rw [check_eq_placed, check_eq_placed]
  exact placed_agree places h

/-- Where positions do not matter, neither does the position that a node adds. -/
theorem form_agree_left (loose : like.Loose) {scope : Scope} {y : Except Error Expr} (form : Form)
    (p : Option Position) (h : ChecksAgree like pair (form.check scope) y) :
    ChecksAgree like pair (Node.check scope ⟨form, p⟩) y := by
  rw [check_eq_placed, ← placed_none y]
  exact placed_agree (loose.positions p none) h

theorem form_agree_right (loose : like.Loose) {scope : Scope} {x : Except Error Expr} (form : Form)
    (p : Option Position) (h : ChecksAgree like pair x (form.check scope)) :
    ChecksAgree like pair x (Node.check scope ⟨form, p⟩) := by
  rw [check_eq_placed, ← placed_none x]
  exact placed_agree (loose.positions none p) h

/-- A text literal is checked to its text, wherever it stands. -/
theorem check_faithful (scope : Scope) (node : Node) : Operand.Faithful ⟨node, node.check scope⟩ := by
  intro text literal
  obtain ⟨p, rfl⟩ := eq_of_textLiteral? literal
  rfl

end

/-! ### Formulas -/

theorem constant_agree (payload : Option t.Carrier) :
    (Formula.constant payload).Agree like pair (Formula.constant payload) := fun _ _ _ => rfl

theorem map_agree {f f' : Formula t} {g : t.Carrier → Option u.Carrier}
    (h : f.Agree like pair f') : (f.map g).Agree like pair (f'.map g) :=
  fun env env' paired => (h env env' paired).bind_same fun _ => rfl

theorem zip_agree {f f' : Formula t} {g g' : Formula u}
    {h : t.Carrier → u.Carrier → Option v.Carrier} (left : f.Agree like pair f')
    (right : g.Agree like pair g') : (f.zip g h).Agree like pair (f'.zip g' h) := by
  refine fun env env' paired => (left env env' paired).bind_same fun a => ?_
  cases a with
  | none => exact rfl
  | some a =>
    refine (right env env' paired).bind_same fun b => ?_
    cases b <;> exact rfl

theorem conjunction_agree {l l' r r' : Formula .boolean} (left : l.Agree like pair l')
    (right : r.Agree like pair r') :
    (Checking.conjunction l r).Agree like pair (Checking.conjunction l' r') := by
  refine fun env env' paired => (left env env' paired).bind_same fun a => ?_
  split
  · exact rfl
  · exact (right env env' paired).bind_same fun _ => rfl

theorem disjunction_agree {l l' r r' : Formula .boolean} (left : l.Agree like pair l')
    (right : r.Agree like pair r') :
    (Checking.disjunction l r).Agree like pair (Checking.disjunction l' r') := by
  refine fun env env' paired => (left env env' paired).bind_same fun a => ?_
  split
  · exact rfl
  · exact (right env env' paired).bind_same fun _ => rfl

theorem toNumber_agree {n n' : Numeric} (h : n.Agree like pair n') :
    n.toNumber.Agree like pair n'.toNumber := by
  cases h with
  | integer h => exact map_agree h
  | number h => exact h

theorem ofValues_agree {f g : Env → Except Error Value} (t : DataType)
    (each : ∀ env env', pair env env' → Agree like Eq (f env) (g env')) :
    ChecksAgree like pair (Expr.ofValues t f) (Expr.ofValues t g) := by
  cases t with
  | dataset => exact .same_error _ rfl
  | scalar t =>
    exact Expr.Agree.scalar fun env env' paired =>
      (each env env' paired).bind_same fun v => .unplaced (.payload t v)

theorem typedNull_agree (t : DataType) :
    ChecksAgree like pair (Expr.typedNull t) (Expr.typedNull t) :=
  ofValues_agree t fun _ _ _ => rfl

/-! ### Operands -/

theorem mismatch_agree {α β : Type} {p : α → β → Prop} {node node' : Node} (expected : Shape)
    (h : e.Agree like pair e') (nodes : like.Nodes node node') :
    Agree like p (.error (e.mismatch expected node)) (.error (e'.mismatch expected node')) := by
  unfold Expr.mismatch
  refine .refused nodes rfl fun strict => ?_
  rw [nodes.texts strict, h.type_eq]

theorem asFormula_agree {node node' : Node} (t : ScalarType) (h : e.Agree like pair e')
    (nodes : like.Nodes node node') :
    Agree like (Formula.Agree like pair) (e.asFormula t node) (e'.asFormula t node') := by
  have refused := mismatch_agree (p := Formula.Agree like pair (t := t)) (.type (some (.scalar t))) h nodes
  cases h with
  | null => exact constant_agree none
  | scalar h =>
    unfold Expr.asFormula
    dsimp only
    split
    · rename_i typed
      subst typed
      exact h
    · exact refused
  | query h => exact refused

theorem asNumeric_agree {node node' : Node} (h : e.Agree like pair e')
    (nodes : like.Nodes node node') :
    Agree like (Numeric.Agree like pair) (e.asNumeric node) (e'.asNumeric node') := by
  have refused := mismatch_agree (p := Numeric.Agree like pair) .numeric h nodes
  cases h with
  | null => exact Numeric.Agree.integer (constant_agree none)
  | @scalar t f g h =>
    cases t with
    | integer => exact Numeric.Agree.integer h
    | number => exact Numeric.Agree.number h
    | _ => exact refused
  | query h => exact refused

theorem asQuery_agree {node node' : Node} (h : e.Agree like pair e')
    (nodes : like.Nodes node node') :
    Agree like (Query.Agree like pair) (e.asQuery node) (e'.asQuery node') := by
  have refused := mismatch_agree (p := Query.Agree like pair) (.type (some .dataset)) h nodes
  cases h with
  | query h => exact h
  | _ => exact refused

theorem asType_agree {node node' : Node} (t : DataType) (h : e.Agree like pair e')
    (nodes : like.Nodes node node') :
    ChecksAgree like pair (e.asType t node) (e'.asType t node') := by
  have refused := mismatch_agree (p := Expr.Agree like pair) (.type (some t)) h nodes
  unfold Expr.asType
  rw [← h.type_eq]
  split
  · split
    · exact refused
    · exact typedNull_agree t
  · split
    · exact h
    · exact refused

variable {o o' : Operand}

theorem formula_agree (t : ScalarType) (h : o.Agree like pair o') :
    Agree like (Formula.Agree like pair) (o.formula t) (o'.formula t) :=
  h.expr.bind fun _ _ agree => asFormula_agree t agree h.nodes

theorem numeric_agree (h : o.Agree like pair o') :
    Agree like (Numeric.Agree like pair) o.numeric o'.numeric :=
  h.expr.bind fun _ _ agree => asNumeric_agree agree h.nodes

theorem real_agree (h : o.Agree like pair o') :
    Agree like (Formula.Agree like pair) o.real o'.real :=
  (numeric_agree h).bind fun _ _ agree => toNumber_agree agree

theorem query_agree (h : o.Agree like pair o') :
    Agree like (Query.Agree like pair) o.query o'.query :=
  h.expr.bind fun _ _ agree => asQuery_agree agree h.nodes

theorem formulaOr_agree (t : ScalarType) (default : t.Carrier) {given given' : Option Operand}
    (h : Option.Rel (Operand.Agree like pair) given given') :
    Agree like (Formula.Agree like pair) (Operand.formulaOr t default given)
      (Operand.formulaOr t default given') := by
  cases h with
  | none => exact constant_agree _
  | some h => exact formula_agree t h

end

end DatasetScript
