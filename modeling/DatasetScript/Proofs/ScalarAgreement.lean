import DatasetScript.Proofs.Agreement
/-!
# Agreement of operators and functions

Operators and functions give agreeing expressions when their operands agree. Main statements:
`binary_agree`, `conditional_agree` and one statement for each family of functions.
-/

namespace DatasetScript

variable {like : Likeness} {pair : Env → Env → Prop}

/-! ### Operators -/

theorem literal_agree (l : Literal) :
    (Checking.literal l).Agree like pair (Checking.literal l) := by
  cases l with
  | null => exact .null
  | _ => exact .scalar (constant_agree _)

theorem combineNumbers_agree {l l' r r' : Numeric} {onIntegers : Int64 → Int64 → Option Int64}
    {onReals : Float → Float → Option Float} (left : l.Agree like pair l')
    (right : r.Agree like pair r') :
    (Checking.combineNumbers l r onIntegers onReals).Agree like pair
      (Checking.combineNumbers l' r' onIntegers onReals) := by
  have reals := zip_agree (v := .number) (h := onReals) (toNumber_agree left) (toNumber_agree right)
  cases left with
  | integer left =>
    cases right with
    | integer right => exact .scalar (zip_agree left right)
    | number right => exact .scalar reals
  | number left => exact .scalar reals

section

variable {left left' right right' : Operand}

theorem logical_agree (op : LogicalOp) (l : left.Agree like pair left')
    (r : right.Agree like pair right') :
    ChecksAgree like pair (Checking.logical op left right) (Checking.logical op left' right') := by
  refine (formula_agree .boolean l).bind fun f f' hf => ?_
  refine (formula_agree .boolean r).bind fun g g' hg => ?_
  cases op with
  | and => exact Expr.Agree.scalar (conjunction_agree hf hg)
  | or => exact Expr.Agree.scalar (disjunction_agree hf hg)
  | xor => exact Expr.Agree.scalar (zip_agree hf hg)

theorem multiplicative_agree (op : MultiplicativeOp) (l : left.Agree like pair left')
    (r : right.Agree like pair right') :
    ChecksAgree like pair (Checking.multiplicative op left right)
      (Checking.multiplicative op left' right') := by
  refine (numeric_agree l).bind fun a a' ha => (numeric_agree r).bind fun b b' hb => ?_
  cases op with
  | mul => exact combineNumbers_agree ha hb
  | div => exact Expr.Agree.scalar (zip_agree (toNumber_agree ha) (toNumber_agree hb))

theorem additive_agree (op : AdditiveOp) (l : left.Agree like pair left')
    (r : right.Agree like pair right') :
    ChecksAgree like pair (Checking.additive op left right) (Checking.additive op left' right') := by
  refine l.expr.bind fun e e' he => r.expr.bind fun f f' hf => ?_
  have numbers (onIntegers : Int64 → Int64 → Option Int64)
      (onReals : Float → Float → Option Float) :
      ChecksAgree like pair
        (do
          let l ← e.asNumeric left.node
          let r ← f.asNumeric right.node
          return Checking.combineNumbers l r onIntegers onReals)
        (do
          let l ← e'.asNumeric left'.node
          let r ← f'.asNumeric right'.node
          return Checking.combineNumbers l r onIntegers onReals) :=
    (asNumeric_agree he l.nodes).bind fun _ _ ha =>
      (asNumeric_agree hf r.nodes).bind fun _ _ hb => combineNumbers_agree ha hb
  cases op with
  | concat =>
    exact (asFormula_agree .string he l.nodes).bind fun _ _ hg =>
      (asFormula_agree .string hf r.nodes).bind fun _ _ hh => Expr.Agree.scalar (zip_agree hg hh)
  | plus => exact numbers _ _
  | minus => exact numbers _ _

theorem comparison_agree (op : ComparisonOp) (l : left.Agree like pair left')
    (r : right.Agree like pair right') :
    ChecksAgree like pair (Checking.comparison op left right)
      (Checking.comparison op left' right') := by
  refine l.expr.bind fun e e' he => r.expr.bind fun f f' hf => ?_
  rw [← he.type_eq, ← hf.type_eq]
  split
  · exact Expr.Agree.scalar fun env env' paired =>
      (he.resolve paired).bind_same fun v => (hf.resolve paired).bind_same fun w => rfl
  · refine .refused r.nodes rfl fun strict => ?_
    simp only [Operand.text, l.nodes.texts strict, r.nodes.texts strict]

theorem binary_agree (op : BinaryOp) (l : left.Agree like pair left')
    (r : right.Agree like pair right') :
    ChecksAgree like pair (Checking.binary op left right) (Checking.binary op left' right') := by
  cases op with
  | logical op => exact logical_agree op l r
  | multiplicative op => exact multiplicative_agree op l r
  | additive op => exact additive_agree op l r
  | comparison op => exact comparison_agree op l r

theorem unary_agree {operand operand' : Operand} (op : UnaryOp)
    (h : operand.Agree like pair operand') :
    ChecksAgree like pair (Checking.unary op operand) (Checking.unary op operand') := by
  cases op with
  | not => exact (formula_agree .boolean h).bind fun _ _ hf => Expr.Agree.scalar (map_agree hf)
  | plus =>
    refine (numeric_agree h).bind fun n n' hn => ?_
    cases hn with
    | integer hf => exact Expr.Agree.scalar hf
    | number hf => exact Expr.Agree.scalar hf
  | minus =>
    refine (numeric_agree h).bind fun n n' hn => ?_
    cases hn with
    | integer hf => exact Expr.Agree.scalar (map_agree hf)
    | number hf => exact Expr.Agree.scalar (map_agree hf)

theorem membership_agree {operand operand' : Operand} (negated : Bool) (list : List Literal)
    (h : operand.Agree like pair operand') :
    ChecksAgree like pair (Checking.membership negated operand list)
      (Checking.membership negated operand' list) := by
  refine h.expr.bind fun e e' he => ?_
  dsimp only
  rw [← he.type_eq]
  split
  · refine .refused h.nodes rfl fun strict => ?_
    simp only [Operand.text, h.nodes.texts strict]
  · exact Expr.Agree.scalar fun env env' paired => (he.resolve paired).bind_same fun v => rfl

end

/-! ### Conditionals -/

theorem choose_agree {α β : Type} {p : α → β → Prop} {c c' : Formula .boolean}
    {thenRun elseRun : Env → Except Error α} {thenRun' elseRun' : Env → Except Error β}
    {env env' : Env} (paired : pair env env') (hc : c.Agree like pair c')
    (ht : Agree like p (thenRun env) (thenRun' env'))
    (he : Agree like p (elseRun env) (elseRun' env')) :
    Agree like p (Checking.choose c thenRun elseRun env)
      (Checking.choose c' thenRun' elseRun' env') := by
  refine (hc env env' paired).bind_same fun b => ?_
  split
  · exact ht
  · exact he

theorem chosen_agree {c c' : Formula .boolean} {t t' e e' : Expr} (a : DataType)
    (hc : c.Agree like pair c') (ht : t.Agree like pair t') (he : e.Agree like pair e') :
    ChecksAgree like pair (Expr.ofCastValues a (Checking.choose c t.resolve e.resolve))
      (Expr.ofCastValues a (Checking.choose c' t'.resolve e'.resolve)) :=
  ofValues_agree a fun _ _ paired =>
    (choose_agree paired hc (ht.resolve paired) (he.resolve paired)).bind_same fun v =>
      .unplaced (.cast a v)

theorem unifyBranches_agree {t t' e e' : Expr} {thenBranch thenBranch' elseBranch elseBranch' : Operand}
    (ht : t.Agree like pair t') (he : e.Agree like pair e')
    (sameThen : like.Nodes thenBranch.node thenBranch'.node)
    (sameElse : like.Nodes elseBranch.node elseBranch'.node) :
    Agree like (fun b b' => b.1.Agree like pair b'.1 ∧ b.2.Agree like pair b'.2)
      (Checking.unifyBranches t e thenBranch elseBranch)
      (Checking.unifyBranches t' e' thenBranch' elseBranch') := by
  unfold Checking.unifyBranches
  rw [← ht.type_eq, ← he.type_eq]
  split
  · exact (asType_agree _ he sameElse).bind fun _ _ h => ⟨ht, h⟩
  · exact (asType_agree _ ht sameThen).bind fun _ _ h => ⟨h, he⟩
  · exact ⟨ht, he⟩

/-- What choosing comes to where the branches are not both datasets. Such branches are told apart by
their types only. -/
def singleChoice (condition thenBranch elseBranch : Operand) (c : Formula .boolean) (t e : Expr) :
    Except Error Expr :=
  match t.type?, e.type? with
  | none, none => return .null
  | some a, some b =>
    if a = b then Expr.ofCastValues a (Checking.choose c t.resolve e.resolve)
    else
      .error ⟨.branchTypeMismatch a b ("if " ++ condition.text ++ " then " ++
        thenBranch.text ++ " else " ++ elseBranch.text), elseBranch.position⟩
  | some a, none | none, some a => Expr.ofCastValues a (Checking.choose c t.resolve e.resolve)

theorem singleChoice_agree {condition condition' thenBranch thenBranch' elseBranch elseBranch' : Operand}
    {c c' : Formula .boolean} {t t' e e' : Expr} (hc : c.Agree like pair c')
    (sameCondition : like.Nodes condition.node condition'.node)
    (sameThen : like.Nodes thenBranch.node thenBranch'.node)
    (sameElse : like.Nodes elseBranch.node elseBranch'.node) (ht : t.Agree like pair t')
    (he : e.Agree like pair e') :
    ChecksAgree like pair (singleChoice condition thenBranch elseBranch c t e)
      (singleChoice condition' thenBranch' elseBranch' c' t' e') := by
  unfold singleChoice
  rw [← ht.type_eq, ← he.type_eq]
  split
  · exact Expr.Agree.null
  · split
    · exact chosen_agree _ hc ht he
    · refine .refused sameElse rfl fun strict => ?_
      simp only [Operand.text, sameCondition.texts strict, sameThen.texts strict,
        sameElse.texts strict]
  · exact chosen_agree _ hc ht he
  · exact chosen_agree _ hc ht he

theorem conditional_agree {condition condition' thenBranch thenBranch' elseBranch elseBranch' : Operand}
    (hc : condition.Agree like pair condition') (ht : thenBranch.Agree like pair thenBranch')
    (he : elseBranch.Agree like pair elseBranch') :
    ChecksAgree like pair (Checking.conditional condition thenBranch elseBranch)
      (Checking.conditional condition' thenBranch' elseBranch') := by
  refine hc.expr.bind fun c c' agreeCondition => ?_
  rw [← agreeCondition.isNull_eq]
  split
  · exact typedNull_agree _
  refine (asFormula_agree .boolean agreeCondition hc.nodes).bind fun f f' hf => ?_
  refine ht.expr.bind fun t t' agreeThen => he.expr.bind fun e e' agreeElse => ?_
  refine (unifyBranches_agree agreeThen agreeElse ht.nodes he.nodes).bind ?_
  rintro ⟨t, e⟩ ⟨t', e'⟩ ⟨agreeThen, agreeElse⟩
  dsimp only at agreeThen agreeElse
  have single := singleChoice_agree hf hc.nodes ht.nodes he.nodes agreeThen agreeElse
  cases agreeThen with
  | null => exact single
  | scalar _ => exact single
  | query first =>
    cases agreeElse with
    | null => exact single
    | scalar _ => exact single
    | query second =>
      dsimp only
      rw [← first.1, ← second.1]
      split
      · exact Expr.Agree.query ⟨rfl, fun env env' paired =>
          choose_agree paired hf (first.2 env env' paired) (second.2 env env' paired)⟩
      · refine .refused he.nodes rfl fun strict => ?_
        simp only [Operand.text, he.nodes.texts strict]

/-! ### Arguments -/

namespace Checking

variable {function : String} {args args' : List Operand} {related : Operand → Operand → Prop}
  {p : Expr → Expr → Prop}

theorem refuseCount_agree {arity : Arity} (count : args.length = args'.length) :
    Agree like p (refuseCount function arity args) (refuseCount function arity args') := by
  unfold refuseCount
  rw [count]
  exact .same_error _ rfl

theorem getElem?_related (all : List.Forall₂ related args args') (i : Nat) :
    Option.Rel related args[i]? args'[i]? := by
  induction all generalizing i with
  | nil => exact .none
  | cons first rest ih =>
    cases i with
    | zero => exact .some first
    | succ i => exact ih i

theorem withArguments_agree {least most : Nat}
    {build build' : Needed least → (Nat → Option Operand) → Except Error Expr}
    (all : List.Forall₂ related args args')
    (each : ∀ needed needed' optional optional', (∀ i, related (needed i) (needed' i)) →
      (∀ i, Option.Rel related (optional i) (optional' i)) →
      Agree like p (build needed optional) (build' needed' optional')) :
    Agree like p (withArguments function least most args build)
      (withArguments function least most args' build') := by
  have count := all.length_eq
  unfold withArguments
  by_cases taken : least ≤ args.length ∧ args.length ≤ most
  · rw [dif_pos taken, dif_pos (count ▸ taken)]
    exact each _ _ _ _ (fun i => all.get _ _) fun i => getElem?_related all _
  · rw [dif_neg taken, dif_neg (count ▸ taken)]
    exact refuseCount_agree count

end Checking

/-! ### Functions on texts -/

section

variable [PatternLanguage]

/-- A text literal stands for the pattern that would be read from it on resolving. -/
theorem patternOf_eq (extend : String → String) {o : Operand} {f : Formula .string}
    (faithful : o.Faithful) (checked : o.formula .string = .ok f) :
    Checking.patternOf extend o.node f = Checking.compilePattern extend f := by
  unfold Checking.patternOf
  split
  · rename_i text literal
    have constant : f = .constant (some text) := by
      unfold Operand.formula at checked
      rw [faithful text literal] at checked
      exact (Except.ok.inj checked).symm
    subst constant
    funext env
    change (Checking.readPattern extend text).map some =
      (Checking.readPattern extend text >>= fun p => pure (some p))
    cases Checking.readPattern extend text <;> rfl
  · rfl

theorem compilePattern_agree {extend : String → String} {f g : Formula .string} {env env' : Env}
    (paired : pair env env') (h : f.Agree like pair g) :
    Agree like Eq (Checking.compilePattern extend f env) (Checking.compilePattern extend g env') := by
  refine (h env env' paired).bind_same fun given => ?_
  cases given with
  | none => exact rfl
  | some text => exact .unplaced ((Unplaced.readPattern extend text).bind fun _ => unplaced_pure _)

/-- The patterns of two operands agree, even where one is a literal and the other is computed. -/
theorem patternOf_agree (extend : String → String) {o o' : Operand} (h : o.Agree like pair o') :
    Agree like
      (fun f f' => ∀ env env', pair env env' → Agree like Eq (Checking.patternOf extend o.node f env)
        (Checking.patternOf extend o'.node f' env'))
      (o.formula .string) (o'.formula .string) := by
  have formulas := formula_agree .string h
  obtain ⟨e, e', failed, failed', alike⟩ | ⟨f, f', made, made', agree⟩ := formulas.alike
  · rw [failed, failed']
    exact alike
  · have first := patternOf_eq extend h.faithful made
    have second := patternOf_eq extend h.faithful' made'
    rw [made, made']
    intro env env' paired
    rw [first, second]
    exact compilePattern_agree paired agree

end

theorem checkBound_agree {e e' bound bound' : Expr} {node node' : Node} {context context' : String}
    (operand : e.Agree like pair e') (other : bound.Agree like pair bound')
    (nodes : like.Nodes node node') (contexts : like.texts → context = context') :
    Agree like Eq (Checking.checkBound e context bound node)
      (Checking.checkBound e' context' bound' node') := by
  unfold Checking.checkBound
  rw [← operand.type_eq, ← other.type_eq]
  split
  · exact rfl
  · refine .refused nodes rfl fun strict => ?_
    rw [contexts strict]

section

variable {args args' : List Operand} (all : List.Forall₂ (Operand.Agree like pair) args args')

include all

section

variable {t : ScalarType} {read : Operand → Except Error (Formula t)} (reads : ∀ {o o' : Operand},
  o.Agree like pair o' → Agree like (Formula.Agree like pair) (read o) (read o'))

include reads

theorem mapCall_agree {function : String} {u : ScalarType} (g : t.Carrier → Option u.Carrier) :
    ChecksAgree like pair (Checking.mapCall function args read u g)
      (Checking.mapCall function args' read u g) :=
  Checking.withArguments_agree all fun _ _ _ _ needed _ =>
    (reads (needed 0)).bind fun _ _ h => Expr.Agree.scalar (map_agree h)

theorem zipCall_agree {function : String} {u : ScalarType}
    (g : t.Carrier → t.Carrier → Option u.Carrier) :
    ChecksAgree like pair (Checking.zipCall function args read u g)
      (Checking.zipCall function args' read u g) :=
  Checking.withArguments_agree all fun _ _ _ _ needed _ =>
    (reads (needed 0)).bind fun _ _ hx => (reads (needed 1)).bind fun _ _ hy =>
      Expr.Agree.scalar (zip_agree hx hy)

end

theorem substrCall_agree :
    ChecksAgree like pair (Checking.substrCall args) (Checking.substrCall args') := by
  refine Checking.withArguments_agree all fun _ _ _ _ needed optional => ?_
  refine (formula_agree .string (needed 0)).bind fun s s' hs => ?_
  refine (formulaOr_agree .integer _ (optional 0)).bind fun start start' hstart => ?_
  refine (formulaOr_agree .integer _ (optional 1)).bind fun length length' hlength => ?_
  refine Expr.Agree.scalar fun env env' paired => ?_
  refine (hs env env' paired).bind_same fun s => ?_
  refine (hstart env env' paired).bind_same fun start => ?_
  refine (hlength env env' paired).bind_same fun length => .unplaced ?_
  split
  · exact (Unplaced.cut _ _ _).bind fun _ => unplaced_pure _
  · simp

theorem instrCall_agree :
    ChecksAgree like pair (Checking.instrCall args) (Checking.instrCall args') := by
  refine Checking.withArguments_agree all fun _ _ _ _ needed optional => ?_
  refine (formula_agree .string (needed 0)).bind fun s s' hs => ?_
  refine (formula_agree .string (needed 1)).bind fun pattern pattern' hpattern => ?_
  refine (formulaOr_agree .integer _ (optional 0)).bind fun start start' hstart => ?_
  refine (formulaOr_agree .integer _ (optional 1)).bind fun occurrence occurrence' hoccurrence => ?_
  refine Expr.Agree.scalar fun env env' paired => ?_
  refine (hs env env' paired).bind_same fun s => ?_
  refine (hpattern env env' paired).bind_same fun pattern => ?_
  refine (hstart env env' paired).bind_same fun start => ?_
  refine (hoccurrence env env' paired).bind_same fun occurrence => .unplaced ?_
  split
  · exact (Unplaced.locateText _ _ _ _).bind fun _ => unplaced_pure _
  · simp

theorem replaceCall_agree [PatternLanguage] :
    ChecksAgree like pair (Checking.replaceCall args) (Checking.replaceCall args') := by
  refine Checking.withArguments_agree all fun _ _ _ _ needed optional => ?_
  refine (formula_agree .string (needed 0)).bind fun s s' hs => ?_
  refine (patternOf_agree id (needed 1)).bind fun pattern pattern' hpattern => ?_
  refine (formulaOr_agree .string _ (optional 0)).bind fun replacement replacement' hreplacement => ?_
  refine Expr.Agree.scalar fun env env' paired => ?_
  refine (hs env env' paired).bind_same fun s => ?_
  refine (hpattern env env' paired).bind_same fun p => ?_
  refine (hreplacement env env' paired).bind_same fun replacement => .unplaced ?_
  split <;> simp

theorem matchCall_agree [PatternLanguage] :
    ChecksAgree like pair (Checking.matchCall args) (Checking.matchCall args') := by
  refine Checking.withArguments_agree all fun _ _ _ _ needed _ => ?_
  refine (formula_agree .string (needed 0)).bind fun s s' hs => ?_
  refine (patternOf_agree Pattern.wholeText (needed 1)).bind fun pattern pattern' hpattern => ?_
  refine Expr.Agree.scalar fun env env' paired => ?_
  refine (hs env env' paired).bind_same fun s => ?_
  refine (hpattern env env' paired).bind_same fun p => .unplaced ?_
  split <;> simp

theorem textFunction_agree [PatternLanguage] (function : String) :
    ChecksAgree like pair (Checking.textFunction function args)
      (Checking.textFunction function args') := by
  unfold Checking.textFunction
  split
  · exact mapCall_agree all (formula_agree .string) _
  · exact mapCall_agree all (formula_agree .string) _
  · exact mapCall_agree all (formula_agree .string) _
  · exact mapCall_agree all (formula_agree .string) _
  · exact mapCall_agree all (formula_agree .string) _
  · exact mapCall_agree all (formula_agree .string) _
  · exact substrCall_agree all
  · exact replaceCall_agree all
  · exact instrCall_agree all
  · exact .same_error _ rfl

theorem distanceFunction_agree (function : String) :
    ChecksAgree like pair (Checking.distanceFunction function args)
      (Checking.distanceFunction function args') := by
  unfold Checking.distanceFunction
  split
  · exact zipCall_agree all (formula_agree .string) _
  · exact .same_error _ rfl

/-! ### Functions on numbers -/

theorem toWhole_agree (function : String) (rule : Float → Float) :
    ChecksAgree like pair (Checking.toWhole function args rule)
      (Checking.toWhole function args' rule) := by
  refine Checking.withArguments_agree all fun _ _ _ _ needed _ => ?_
  refine (numeric_agree (needed 0)).bind fun n n' hn => ?_
  cases hn with
  | integer hf => exact Expr.Agree.scalar hf
  | number hf => exact Expr.Agree.scalar (map_agree hf)

theorem absolute_agree :
    ChecksAgree like pair (Checking.absolute args) (Checking.absolute args') := by
  refine Checking.withArguments_agree all fun _ _ _ _ needed _ => ?_
  refine (numeric_agree (needed 0)).bind fun n n' hn => ?_
  cases hn with
  | integer hf => exact Expr.Agree.scalar (map_agree hf)
  | number hf => exact Expr.Agree.scalar (map_agree hf)

theorem roundCall_agree (function : String) (rule : Float → Float) :
    ChecksAgree like pair (Checking.roundCall function args rule)
      (Checking.roundCall function args' rule) := by
  refine Checking.withArguments_agree all fun _ _ _ _ needed optional => ?_
  refine (real_agree (needed 0)).bind fun x x' hx => ?_
  refine (formulaOr_agree .integer _ (optional 0)).bind fun places places' hplaces => ?_
  refine Expr.Agree.scalar fun env env' paired => ?_
  refine (hx env env' paired).bind_same fun x => ?_
  refine (hplaces env env' paired).bind_same fun places => .unplaced ?_
  split <;> simp

theorem modulo_agree :
    ChecksAgree like pair (Checking.modulo args) (Checking.modulo args') := by
  refine Checking.withArguments_agree all fun _ _ _ _ needed _ => ?_
  refine (numeric_agree (needed 0)).bind fun x x' hx => ?_
  refine (numeric_agree (needed 1)).bind fun y y' hy => ?_
  have reals := zip_agree (v := .number)
    (h := fun x y => if y == 0 then none else some (Real.remainder x y))
    (toNumber_agree hx) (toNumber_agree hy)
  cases hx with
  | integer hf =>
    cases hy with
    | integer hg => exact Expr.Agree.scalar (zip_agree hf hg)
    | number hg => exact Expr.Agree.scalar reals
  | number hf => exact Expr.Agree.scalar reals

theorem numericFunction_agree (function : String) :
    ChecksAgree like pair (Checking.numericFunction function args)
      (Checking.numericFunction function args') := by
  unfold Checking.numericFunction
  split
  · exact toWhole_agree all _ _
  · exact toWhole_agree all _ _
  · exact absolute_agree all
  · exact mapCall_agree all real_agree _
  · exact mapCall_agree all real_agree _
  · exact mapCall_agree all real_agree _
  · exact roundCall_agree all _ _
  · exact roundCall_agree all _ _
  · exact modulo_agree all
  · exact zipCall_agree all real_agree _
  · exact zipCall_agree all real_agree _
  · exact .same_error _ rfl

/-! ### Comparing functions -/

theorem between_agree :
    ChecksAgree like pair (Checking.between args) (Checking.between args') := by
  refine Checking.withArguments_agree all fun args args' _ _ needed _ => ?_
  have ha : Operand.Agree like pair args.first args'.first := needed 0
  have hb : Operand.Agree like pair args.second args'.second := needed 1
  have hc : Operand.Agree like pair args.third args'.third := needed 2
  have contexts (strict : like.texts) :
      "between(" ++ args.first.text ++ ", " ++ args.second.text ++ ", " ++ args.third.text ++ ")" =
        "between(" ++ args'.first.text ++ ", " ++ args'.second.text ++ ", " ++ args'.third.text ++
          ")" := by
    simp only [Operand.text, ha.nodes.texts strict, hb.nodes.texts strict, hc.nodes.texts strict]
  refine ha.expr.bind fun operand operand' hoperand => ?_
  refine hb.expr.bind fun low low' hlow => hc.expr.bind fun high high' hhigh => ?_
  refine (checkBound_agree hoperand hlow hb.nodes contexts).bind_same fun _ => ?_
  refine (checkBound_agree hoperand hhigh hc.nodes contexts).bind_same fun _ => ?_
  refine Expr.Agree.scalar fun env env' paired => ?_
  refine (hoperand.resolve paired).bind_same fun v => (hlow.resolve paired).bind_same fun l => ?_
  exact (hhigh.resolve paired).bind_same fun h => rfl

theorem nullTest_agree :
    ChecksAgree like pair (Checking.nullTest args) (Checking.nullTest args') := by
  refine Checking.withArguments_agree all fun args args' _ _ needed _ => ?_
  have ha : Operand.Agree like pair args.first args'.first := needed 0
  refine ha.expr.bind fun operand operand' hoperand => ?_
  rw [← hoperand.type_eq]
  split
  · refine .refused ha.nodes rfl fun strict => ?_
    simp only [Operand.text, ha.nodes.texts strict]
  · exact Expr.Agree.scalar fun env env' paired =>
      (hoperand.resolve paired).bind_same fun v => rfl

theorem comparisonFunction_agree [PatternLanguage] (function : String) :
    ChecksAgree like pair (Checking.comparisonFunction function args)
      (Checking.comparisonFunction function args') := by
  unfold Checking.comparisonFunction
  split
  · exact between_agree all
  · exact matchCall_agree all
  · exact nullTest_agree all
  · exact .same_error _ rfl

end

end DatasetScript
