import DatasetScript.Checking.Node
import DatasetScript.Proofs.Arguments
import DatasetScript.Proofs.Typing
/-!
# Soundness of operators and functions

Operators and functions give sound expressions when their operands are sound. Main statements:
`binary_sound`, `conditional_sound` and one statement for each family of functions.
-/

namespace DatasetScript

variable [PatternLanguage]

/-- Both kinds of numbers are sound. -/
def Numeric.Sound (inner : Dataset → Prop) (scope : Scope) : Numeric → Prop
  | .integer f => f.Sound inner scope
  | .number f => f.Sound inner scope

/-- A check gives sound expressions. -/
def Checks (inner : Dataset → Prop) (scope : Scope) (x : Except Error Expr) : Prop :=
  Yields (Expr.Sound inner scope) x

variable {inner : Dataset → Prop} {scope : Scope}

/-! ### Formulas -/

section

variable {t u v : ScalarType}

theorem constant_sound (payload : Option t.Carrier) :
    (Formula.constant payload).Sound inner scope := fun _ _ => Safe.pure trivial

theorem map_sound {f : Formula t} {g : t.Carrier → Option u.Carrier} (h : f.Sound inner scope) :
    (f.map g).Sound inner scope := fun env held => (h env held).bind fun _ _ => .pure trivial

theorem zip_sound {f : Formula t} {g : Formula u} {h : t.Carrier → u.Carrier → Option v.Carrier}
    (left : f.Sound inner scope) (right : g.Sound inner scope) : (f.zip g h).Sound inner scope := by
  intro env held
  refine (left env held).bind fun a _ => ?_
  cases a with
  | none => exact .pure trivial
  | some a =>
    refine (right env held).bind fun b _ => ?_
    cases b <;> exact .pure trivial

theorem conjunction_sound {l r : Formula .boolean} (left : l.Sound inner scope)
    (right : r.Sound inner scope) : (Checking.conjunction l r).Sound inner scope := by
  intro env held
  refine (left env held).bind fun a _ => ?_
  split
  · exact .pure trivial
  · exact (right env held).bind fun _ _ => .pure trivial

theorem disjunction_sound {l r : Formula .boolean} (left : l.Sound inner scope)
    (right : r.Sound inner scope) : (Checking.disjunction l r).Sound inner scope := by
  intro env held
  refine (left env held).bind fun a _ => ?_
  split
  · exact .pure trivial
  · exact (right env held).bind fun _ _ => .pure trivial

theorem toNumber_sound {n : Numeric} (h : n.Sound inner scope) : n.toNumber.Sound inner scope := by
  cases n with
  | integer f => exact map_sound h
  | number f => exact h

/-- Values of the type, as they come, make a sound expression. -/
theorem ofValues_sound {f : Env → Except Error Value} {t : DataType}
    (each : ∀ env : Env, env.Matches inner scope → Safe (fun v => v.fits t) (f env)) :
    Checks inner scope (Expr.ofValues t f) := by
  cases t with
  | dataset => exact .error _
  | scalar t =>
    refine .ok fun env held => (each env held).bind fun v fits => ?_
    obtain ⟨payload, made⟩ := payload_of_fits fits
    rw [made]
    trivial

theorem typedNull_sound (t : DataType) : Checks inner scope (Expr.typedNull t) :=
  ofValues_sound fun _ _ => Safe.pure rfl

end

/-! ### Operands -/

section

variable {o : Operand}

theorem asFormula_sound {e : Expr} (t : ScalarType) (node : Node) (h : e.Sound inner scope) :
    Yields (fun f => f.Sound inner scope) (e.asFormula t node) := by
  unfold Expr.asFormula
  split
  · exact .ok (constant_sound none)
  · split
    · rename_i same
      subst same
      exact .ok h
    · exact .error _
  · exact .error _

theorem asNumeric_sound {e : Expr} (node : Node) (h : e.Sound inner scope) :
    Yields (Numeric.Sound inner scope) (e.asNumeric node) := by
  unfold Expr.asNumeric
  split
  · exact .ok (constant_sound none)
  · exact .ok h
  · exact .ok h
  · exact .error _

theorem formula_sound (t : ScalarType) (h : o.Sound inner scope) :
    Yields (fun f => f.Sound inner scope) (o.formula t) :=
  h.bind fun _ sound => asFormula_sound t o.node sound

theorem numeric_sound (h : o.Sound inner scope) : Yields (Numeric.Sound inner scope) o.numeric :=
  h.bind fun _ sound => asNumeric_sound o.node sound

theorem real_sound (h : o.Sound inner scope) : Yields (fun f => f.Sound inner scope) o.real :=
  (numeric_sound h).bind fun _ sound => .ok (toNumber_sound sound)

theorem query_sound (h : o.Sound inner scope) : Yields (Query.Sound inner scope) o.query := by
  refine h.bind fun e sound => ?_
  unfold Expr.asQuery
  split
  · exact .ok sound
  · exact .error _

theorem formulaOr_sound (t : ScalarType) (default : t.Carrier) {given : Option Operand}
    (h : Checking.GoodIfGiven (Operand.Sound inner scope) given) :
    Yields (fun f => f.Sound inner scope) (Operand.formulaOr t default given) := by
  cases given with
  | none => exact .ok (constant_sound _)
  | some o => exact formula_sound t (h o rfl)

end

/-! ### Variables -/

omit [PatternLanguage] in
/-- A dataset that is declared with its own structure is taken as it is. -/
theorem boundDataset_own {env : Env} {name : String} {d : Dataset}
    (found : env name = some (.dataset d)) : Checking.boundDataset name d.layout env = .ok d := by
  simp [Checking.boundDataset, found, Dataset.conform, Structure.isCompatibleWith_refl]

theorem variableNamed_sound (name : String) :
    Checks inner scope (Checking.variableNamed scope name) := by
  unfold Checking.variableNamed
  split
  · exact .error _
  · exact .ok trivial
  · rename_i t declared
    cases t with
    | dataset => exact .error _
    | scalar t =>
      refine ofValues_sound fun env held => ?_
      have described := held name _ declared
      cases found : env name with
      | none => simp [found, Declaration.Describes] at described
      | some v =>
        rw [found] at described
        rw [show Checking.boundValue name env = .ok v by simp [Checking.boundValue, found]]
        exact described
  · rename_i layout declared
    refine .ok fun env held => ?_
    have described := held name _ declared
    cases found : env name with
    | none => simp [found, Declaration.Describes] at described
    | some v =>
      rw [found] at described
      cases v with
      | dataset d =>
        obtain ⟨rfl, typed⟩ := described
        change Safe _ (Checking.boundDataset name d.layout env)
        rw [boundDataset_own found]
        exact ⟨rfl, typed⟩
      | _ => exact described.elim

/-! ### Operators -/

theorem literal_sound (l : Literal) : (Checking.literal l).Sound inner scope := by
  cases l with
  | null => trivial
  | _ => exact constant_sound _

theorem combineNumbers_sound {l r : Numeric} {onIntegers : Int64 → Int64 → Option Int64}
    {onReals : Float → Float → Option Float} (left : l.Sound inner scope)
    (right : r.Sound inner scope) :
    (Checking.combineNumbers l r onIntegers onReals).Sound inner scope := by
  unfold Checking.combineNumbers
  split
  · exact zip_sound left right
  · exact zip_sound (toNumber_sound left) (toNumber_sound right)

section

variable {left right : Operand}

theorem logical_sound (op : LogicalOp) (l : left.Sound inner scope) (r : right.Sound inner scope) :
    Checks inner scope (Checking.logical op left right) := by
  refine (formula_sound .boolean l).bind fun f hf => (formula_sound .boolean r).bind fun g hg => ?_
  cases op with
  | and => exact .ok (conjunction_sound hf hg)
  | or => exact .ok (disjunction_sound hf hg)
  | xor => exact .ok (zip_sound hf hg)

theorem multiplicative_sound (op : MultiplicativeOp) (l : left.Sound inner scope)
    (r : right.Sound inner scope) : Checks inner scope (Checking.multiplicative op left right) := by
  refine (numeric_sound l).bind fun a ha => (numeric_sound r).bind fun b hb => ?_
  cases op with
  | mul => exact .ok (combineNumbers_sound ha hb)
  | div => exact .ok (zip_sound (toNumber_sound ha) (toNumber_sound hb))

theorem additive_sound (op : AdditiveOp) (l : left.Sound inner scope)
    (r : right.Sound inner scope) : Checks inner scope (Checking.additive op left right) := by
  refine l.bind fun e he => r.bind fun f hf => ?_
  have numbers (onIntegers : Int64 → Int64 → Option Int64)
      (onReals : Float → Float → Option Float) : Checks inner scope (do
        let l ← e.asNumeric left.node
        let r ← f.asNumeric right.node
        return Checking.combineNumbers l r onIntegers onReals) :=
    (asNumeric_sound left.node he).bind fun _ ha =>
      (asNumeric_sound right.node hf).bind fun _ hb => .ok (combineNumbers_sound ha hb)
  cases op with
  | concat =>
    exact (asFormula_sound .string left.node he).bind fun _ hg =>
      (asFormula_sound .string right.node hf).bind fun _ hh => .ok (zip_sound hg hh)
  | plus => exact numbers _ _
  | minus => exact numbers _ _

theorem comparison_sound (op : ComparisonOp) (l : left.Sound inner scope)
    (r : right.Sound inner scope) : Checks inner scope (Checking.comparison op left right) := by
  refine l.bind fun e he => r.bind fun f hf => ?_
  split
  · exact .ok fun env held =>
      (he.resolve held).bind fun v _ => (hf.resolve held).bind fun w _ => .pure trivial
  · exact .error _

theorem binary_sound (op : BinaryOp) (l : left.Sound inner scope) (r : right.Sound inner scope) :
    Checks inner scope (Checking.binary op left right) := by
  cases op with
  | logical op => exact logical_sound op l r
  | multiplicative op => exact multiplicative_sound op l r
  | additive op => exact additive_sound op l r
  | comparison op => exact comparison_sound op l r

theorem unary_sound {operand : Operand} (op : UnaryOp) (h : operand.Sound inner scope) :
    Checks inner scope (Checking.unary op operand) := by
  cases op with
  | not => exact (formula_sound .boolean h).bind fun f hf => .ok (map_sound hf)
  | plus =>
    refine (numeric_sound h).bind fun n hn => .ok ?_
    cases n <;> exact hn
  | minus =>
    refine (numeric_sound h).bind fun n hn => ?_
    cases n <;> exact .ok (map_sound hn)

theorem membership_sound {operand : Operand} (negated : Bool) (list : List Literal)
    (h : operand.Sound inner scope) :
    Checks inner scope (Checking.membership negated operand list) := by
  refine h.bind fun e he => ?_
  dsimp only
  split
  · exact .error _
  · exact .ok fun env held => (he.resolve held).bind fun v _ => .pure trivial

end

/-! ### Conditionals -/

omit [PatternLanguage] in
theorem ofValues_type {t : DataType} {f : Env → Except Error Value} :
    Yields (fun e => e.type? = some t ∧ t ≠ .dataset) (Expr.ofValues t f) := by
  cases t with
  | scalar t => exact .ok ⟨rfl, nofun⟩
  | dataset => exact .error _

/-- The type of the NULL literal is taken from elsewhere. -/
theorem asType_sound {e : Expr} (t : DataType) (node : Node) (untyped : e.type? = none) :
    Yields (fun e' => e'.Sound inner scope ∧ e'.type? = some t ∧ t ≠ .dataset) (e.asType t node) := by
  unfold Expr.asType
  rw [untyped]
  dsimp only
  split
  · exact .error _
  · exact fun e' made => ⟨typedNull_sound t e' made, ofValues_type e' made⟩

/-- Branches that do not both give datasets are unified to such ones. -/
theorem unifyBranches_sound {t e : Expr} {thenBranch elseBranch : Operand}
    (ht : t.Sound inner scope) (he : e.Sound inner scope)
    (single : ¬ (t.type? = some .dataset ∧ e.type? = some .dataset)) :
    Yields (fun b => b.1.Sound inner scope ∧ b.2.Sound inner scope ∧
        ¬ (b.1.type? = some .dataset ∧ b.2.type? = some .dataset))
      (Checking.unifyBranches t e thenBranch elseBranch) := by
  unfold Checking.unifyBranches
  split
  · refine (asType_sound _ _ ‹_›).bind fun e' made => .ok ⟨ht, made.1, fun both => made.2.2 ?_⟩
    exact Option.some.inj (made.2.1.symm.trans both.2)
  · refine (asType_sound _ _ ‹_›).bind fun t' made => .ok ⟨made.1, he, fun both => made.2.2 ?_⟩
    exact Option.some.inj (made.2.1.symm.trans both.1)
  · exact .ok ⟨ht, he, single⟩

theorem choose_safe {α : Type} {post : α → Prop} {env : Env} {c : Formula .boolean}
    {thenRun elseRun : Env → Except Error α} (held : env.Matches inner scope)
    (hc : c.Sound inner scope) (ht : Safe post (thenRun env)) (he : Safe post (elseRun env)) :
    Safe post (Checking.choose c thenRun elseRun env) := by
  refine (hc env held).bind fun b _ => ?_
  split
  · exact ht
  · exact he

/-- Branches of a type, or without one, are cast to the type. -/
theorem chosen_sound {c : Formula .boolean} {t e : Expr} {a : DataType} (hc : c.Sound inner scope)
    (ht : t.Sound inner scope) (he : e.Sound inner scope) (thenType : ∀ b ∈ t.type?, b = a)
    (elseType : ∀ b ∈ e.type?, b = a) :
    Checks inner scope (Expr.ofCastValues a (Checking.choose c t.resolve e.resolve)) := by
  cases a with
  | dataset => exact .error _
  | scalar a =>
    refine ofValues_sound fun env held => ?_
    have chosen : Safe (fun v => v.HasType inner (some (.scalar a)))
        (Checking.choose c t.resolve e.resolve env) :=
      choose_safe held hc ((ht.resolve held).mono fun _ h => hasType_of_only h thenType)
        ((he.resolve held).mono fun _ h => hasType_of_only h elseType)
    refine chosen.bind fun v h => ?_
    rw [cast_of_hasType h]
    exact (suits_of_hasType h).1

theorem conditional_sound {condition thenBranch elseBranch : Operand}
    (hc : condition.Sound inner scope) (ht : thenBranch.Sound inner scope)
    (he : elseBranch.Sound inner scope)
    (single : ∀ p q, thenBranch.expr = .ok (.query p) → elseBranch.expr ≠ .ok (.query q)) :
    Checks inner scope (Checking.conditional condition thenBranch elseBranch) := by
  refine hc.bind fun c soundCondition => ?_
  split
  · exact typedNull_sound _
  · refine (asFormula_sound .boolean _ soundCondition).bind fun f hf => ?_
    refine Yields.bind_eq fun t thenMade => Yields.bind_eq fun e elseMade => ?_
    have apart : ¬ (t.type? = some .dataset ∧ e.type? = some .dataset) := by
      rintro ⟨thenType, elseType⟩
      cases t <;> cases thenType
      cases e <;> cases elseType
      exact single _ _ thenMade elseMade
    refine (unifyBranches_sound (ht t thenMade) (he e elseMade) apart).bind fun branches h => ?_
    split
    · exact (h.2.2 ⟨rfl, rfl⟩).elim
    · obtain ⟨ht, he, -⟩ := h
      split
      · exact .ok trivial
      · split
        · rename_i same
          subst same
          refine chosen_sound hf ht he ?_ ?_ <;> simp_all
        · exact .error _
      · refine chosen_sound hf ht he ?_ ?_ <;> simp_all
      · refine chosen_sound hf ht he ?_ ?_ <;> simp_all

/-! ### Functions on texts -/

theorem cut_safe (s : String) (start length : Int64) :
    Safe (fun _ => True) (Checking.cut s start length) := by
  unfold Checking.cut
  split
  · rename_i negative
    exact negative
  · trivial

theorem locateText_safe (s pattern : String) (start occurrence : Int64) :
    Safe (fun _ => True) (Checking.locateText s pattern start occurrence) := by
  unfold Checking.locateText
  split
  · rename_i early
    exact early
  · trivial

theorem readPattern_safe {extend : String → String}
    (known : extend = id ∨ extend = Pattern.wholeText) (text : String) :
    Safe (fun _ => True) (Checking.readPattern extend text) := by
  unfold Checking.readPattern
  split
  · exact .pure trivial
  · rename_i unread
    rcases known with rfl | rfl
    · exact .inl unread
    · exact .inr unread

theorem patternOf_safe {extend : String → String} {f : Formula .string} {env : Env}
    (known : extend = id ∨ extend = Pattern.wholeText) (held : env.Matches inner scope)
    (hf : f.Sound inner scope) (node : Node) :
    Safe (fun _ => True) (Checking.patternOf extend node f env) := by
  unfold Checking.patternOf
  cases node.textLiteral? with
  | some text => exact (readPattern_safe known text).map fun _ _ => trivial
  | none =>
    refine (hf env held).bind fun given _ => ?_
    cases given with
    | none => exact .pure trivial
    | some text => exact (readPattern_safe known text).bind fun _ _ => .pure trivial

section

variable {args : List Operand} (all : ∀ a ∈ args, a.Sound inner scope)

include all

section

variable {t : ScalarType} {read : Operand → Except Error (Formula t)} (reads : ∀ {o : Operand},
  o.Sound inner scope → Yields (fun f => f.Sound inner scope) (read o))

include reads

theorem mapCall_sound {function : String} {u : ScalarType} (g : t.Carrier → Option u.Carrier) :
    Checks inner scope (Checking.mapCall function args read u g) :=
  Checking.withArguments_yields all fun _ _ needed _ =>
    (reads (needed 0)).bind fun _ h => .ok (map_sound h)

theorem zipCall_sound {function : String} {u : ScalarType}
    (g : t.Carrier → t.Carrier → Option u.Carrier) :
    Checks inner scope (Checking.zipCall function args read u g) :=
  Checking.withArguments_yields all fun _ _ needed _ =>
    (reads (needed 0)).bind fun _ hx => (reads (needed 1)).bind fun _ hy => .ok (zip_sound hx hy)

end

theorem substrCall_sound : Checks inner scope (Checking.substrCall args) := by
  refine Checking.withArguments_yields all fun _ _ needed optional => ?_
  refine (formula_sound .string (needed 0)).bind fun s hs => ?_
  refine (formulaOr_sound .integer _ (optional 0)).bind fun start hstart => ?_
  refine (formulaOr_sound .integer _ (optional 1)).bind fun length hlength => .ok fun env held => ?_
  refine (hs env held).bind fun s _ => (hstart env held).bind fun start _ => ?_
  refine (hlength env held).bind fun length _ => ?_
  split
  · exact (cut_safe _ _ _).bind fun _ _ => .pure trivial
  · exact .pure trivial

theorem instrCall_sound : Checks inner scope (Checking.instrCall args) := by
  refine Checking.withArguments_yields all fun _ _ needed optional => ?_
  refine (formula_sound .string (needed 0)).bind fun s hs => ?_
  refine (formula_sound .string (needed 1)).bind fun pattern hpattern => ?_
  refine (formulaOr_sound .integer _ (optional 0)).bind fun start hstart => ?_
  refine (formulaOr_sound .integer _ (optional 1)).bind fun occurrence hoccurrence => ?_
  refine .ok fun env held => ?_
  refine (hs env held).bind fun s _ => (hpattern env held).bind fun pattern _ => ?_
  refine (hstart env held).bind fun start _ => (hoccurrence env held).bind fun occurrence _ => ?_
  split
  · exact (locateText_safe _ _ _ _).bind fun _ _ => .pure trivial
  · exact .pure trivial

theorem replaceCall_sound : Checks inner scope (Checking.replaceCall args) := by
  refine Checking.withArguments_yields all fun args _ needed optional => ?_
  refine (formula_sound .string (needed 0)).bind fun s hs => ?_
  refine (formula_sound .string (needed 1)).bind fun pattern hpattern => ?_
  refine (formulaOr_sound .string _ (optional 0)).bind fun replacement hreplacement => ?_
  refine .ok fun env held => (hs env held).bind fun s _ => ?_
  refine (patternOf_safe (.inl rfl) held hpattern args.second.node).bind fun p _ => ?_
  refine (hreplacement env held).bind fun replacement _ => ?_
  split <;> exact .pure trivial

theorem matchCall_sound : Checks inner scope (Checking.matchCall args) := by
  refine Checking.withArguments_yields all fun args _ needed _ => ?_
  refine (formula_sound .string (needed 0)).bind fun s hs => ?_
  refine (formula_sound .string (needed 1)).bind fun pattern hpattern => ?_
  refine .ok fun env held => (hs env held).bind fun s _ => ?_
  refine (patternOf_safe (.inr rfl) held hpattern args.second.node).bind fun p _ => ?_
  split <;> exact .pure trivial

theorem textFunction_sound (function : String) :
    Checks inner scope (Checking.textFunction function args) := by
  unfold Checking.textFunction
  split
  · exact mapCall_sound all (formula_sound .string) _
  · exact mapCall_sound all (formula_sound .string) _
  · exact mapCall_sound all (formula_sound .string) _
  · exact mapCall_sound all (formula_sound .string) _
  · exact mapCall_sound all (formula_sound .string) _
  · exact mapCall_sound all (formula_sound .string) _
  · exact substrCall_sound all
  · exact replaceCall_sound all
  · exact instrCall_sound all
  · exact .error _

theorem distanceFunction_sound (function : String) :
    Checks inner scope (Checking.distanceFunction function args) := by
  unfold Checking.distanceFunction
  split
  · exact zipCall_sound all (formula_sound .string) _
  · exact .error _

/-! ### Functions on numbers -/

theorem toWhole_sound (function : String) (rule : Float → Float) :
    Checks inner scope (Checking.toWhole function args rule) := by
  refine Checking.withArguments_yields all fun _ _ needed _ => ?_
  refine (numeric_sound (needed 0)).bind fun n hn => ?_
  cases n with
  | integer f => exact .ok hn
  | number f => exact .ok (map_sound hn)

theorem absolute_sound : Checks inner scope (Checking.absolute args) := by
  refine Checking.withArguments_yields all fun _ _ needed _ => ?_
  refine (numeric_sound (needed 0)).bind fun n hn => ?_
  cases n <;> exact .ok (map_sound hn)

theorem roundCall_sound (function : String) (rule : Float → Float) :
    Checks inner scope (Checking.roundCall function args rule) := by
  refine Checking.withArguments_yields all fun _ _ needed optional => ?_
  refine (real_sound (needed 0)).bind fun x hx => ?_
  refine (formulaOr_sound .integer _ (optional 0)).bind fun places hplaces => .ok fun env held => ?_
  refine (hx env held).bind fun x _ => (hplaces env held).bind fun places _ => ?_
  split <;> exact .pure trivial

theorem modulo_sound : Checks inner scope (Checking.modulo args) := by
  refine Checking.withArguments_yields all fun _ _ needed _ => ?_
  refine (numeric_sound (needed 0)).bind fun x hx => ?_
  refine (numeric_sound (needed 1)).bind fun y hy => ?_
  split
  · exact .ok (zip_sound hx hy)
  · exact .ok (zip_sound (toNumber_sound hx) (toNumber_sound hy))

theorem numericFunction_sound (function : String) :
    Checks inner scope (Checking.numericFunction function args) := by
  unfold Checking.numericFunction
  split
  · exact toWhole_sound all _ _
  · exact toWhole_sound all _ _
  · exact absolute_sound all
  · exact mapCall_sound all real_sound _
  · exact mapCall_sound all real_sound _
  · exact mapCall_sound all real_sound _
  · exact roundCall_sound all _ _
  · exact roundCall_sound all _ _
  · exact modulo_sound all
  · exact zipCall_sound all real_sound _
  · exact zipCall_sound all real_sound _
  · exact .error _

/-! ### Comparing functions -/

theorem between_sound : Checks inner scope (Checking.between args) := by
  refine Checking.withArguments_yields all fun _ _ needed _ => ?_
  refine (needed 0).bind fun operand hoperand => (needed 1).bind fun low hlow => ?_
  refine (needed 2).bind fun high hhigh => ?_
  refine Yields.bind_eq fun _ _ => Yields.bind_eq fun _ _ => .ok fun env held => ?_
  refine (hoperand.resolve held).bind fun v _ => (hlow.resolve held).bind fun l _ => ?_
  exact (hhigh.resolve held).bind fun h _ => .pure trivial

theorem nullTest_sound : Checks inner scope (Checking.nullTest args) := by
  refine Checking.withArguments_yields all fun _ _ needed _ => ?_
  refine (needed 0).bind fun operand hoperand => ?_
  split
  · exact .error _
  · exact .ok fun env held => (hoperand.resolve held).bind fun v _ => .pure trivial

theorem comparisonFunction_sound (function : String) :
    Checks inner scope (Checking.comparisonFunction function args) := by
  unfold Checking.comparisonFunction
  split
  · exact between_sound all
  · exact matchCall_sound all
  · exact nullTest_sound all
  · exact .error _

end

end DatasetScript
