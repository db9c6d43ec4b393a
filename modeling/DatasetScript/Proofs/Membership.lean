import DatasetScript.Proofs.Positions
import DatasetScript.Proofs.ThreeValuedLogic
import DatasetScript.Proofs.ValueOrder
/-!
# Membership and equality

A value is in a list of literals where it equals one of them. A disjunction of equalities asks the
same, and gives the same result but for one case: a NULL in the list equals nothing for the former,
and leaves the latter open if no other literal equals the value. Main statement:
`membership_and_equalities`.
-/

namespace DatasetScript

/-! ### Connectives over lists -/

namespace LogicalOp

/-- The result of the connective, where both sides resolve. -/
def result : LogicalOp → Option Bool → Option Bool → Option Bool
  | and => Checking.kleeneAnd
  | or => Checking.kleeneOr
  | xor => fun a b => a.bind fun a => b.map fun b => a != b

theorem combine_ok {f g : Formula .boolean} {env : Env} {a b : Option Bool} (op : LogicalOp)
    (first : f env = .ok a) (second : g env = .ok b) :
    op.combine f g env = .ok (op.result a b) := by
  cases op with
  | and => exact shortened_ok false (fun _ => rfl) first second
  | or => exact shortened_ok true (fun _ => rfl) first second
  | xor =>
    rw [combine, Formula.zip, first, ok_bind, second]
    cases a <;> cases b <;> rfl

/-- What the connective gives for no truth values at all. -/
def neutral : LogicalOp → Bool
  | and => true
  | or | xor => false

def fold (op : LogicalOp) (bs : List (Option Bool)) : Option Bool :=
  bs.foldr op.result (some op.neutral)

theorem result_assoc (op : LogicalOp) :
    ∀ a b c, op.result (op.result a b) c = op.result a (op.result b c) := by
  cases op <;> decide

theorem result_neutral (op : LogicalOp) : ∀ b, op.result b (some op.neutral) = b := by
  cases op <;> decide

theorem fold_singleton (op : LogicalOp) (b : Option Bool) : op.fold [b] = b := op.result_neutral b

theorem neutral_result (op : LogicalOp) : ∀ b, op.result (some op.neutral) b = b := by
  cases op <;> decide

theorem fold_append (op : LogicalOp) (bs others : List (Option Bool)) :
    op.fold (bs ++ others) = op.result (op.fold bs) (op.fold others) := by
  induction bs with
  | nil => exact (op.neutral_result _).symm
  | cons b bs ih =>
    change op.result b (op.fold (bs ++ others)) = op.result (op.result b (op.fold bs)) _
    rw [ih, result_assoc]

theorem fold_or (bs : List (Option Bool)) : or.fold bs =
    if some true ∈ bs then some true else if none ∈ bs then none else some false := by
  induction bs with
  | nil => rfl
  | cons b bs ih =>
    change or.result b (or.fold bs) = _
    rw [ih]
    by_cases met : some true ∈ bs <;> by_cases unknown : none ∈ bs <;> rcases b with - | - | - <;>
      simp [met, unknown, result, Checking.kleeneOr]

theorem fold_and_not (bs : List (Option Bool)) :
    and.fold (bs.map (·.map (!·))) = (or.fold bs).map (!·) := by
  have dual : ∀ a b : Option Bool,
      and.result (a.map (!·)) (b.map (!·)) = (or.result a b).map (!·) := by decide
  induction bs with
  | nil => rfl
  | cons b bs ih => exact (congrArg (and.result _) ih).trans (dual b _)

end LogicalOp

/-! ### Equality -/

/-- The value is NULL or of the type. -/
def Value.Fits (t : ScalarType) (v : Value) : Prop := v = .null ∨ ∃ a, v = .scalar t a

section

variable {t : ScalarType} {v w : Value}

theorem Value.isNull_iff (v : Value) : v.isNull = true ↔ v = .null := by
  cases v <;> simp [isNull]

theorem Value.scalar_ne_null (a : t.Carrier) : Value.scalar t a ≠ .null := by
  cases t <;> exact nofun

theorem Value.Fits.type? (h : v.Fits t) : v.type? = none ∨ v.type? = some (.scalar t) := by
  rcases h with rfl | ⟨a, rfl⟩
  · exact .inl rfl
  · right
    cases t <;> rfl

/-- What a comparison of two values gives. -/
def compared (op : ComparisonOp) (v w : Value) : Option Bool :=
  (v.compare? w).map (Checking.holds op)

theorem compared_ne (v w : Value) : compared .ne v w = (compared .eq v w).map (!·) := by
  unfold compared
  cases v.compare? w <;> rfl

theorem compare_null (v : Value) : v.compare? .null = none ∧ Value.null.compare? v = none := by
  cases v <;> exact ⟨rfl, rfl⟩

/-- Two values of one type other than Number are equal or not, and nothing is known of NULL. -/
theorem compared_eq (exact : t ≠ .number) (first : v.Fits t) (second : w.Fits t) :
    (compared .eq v w = none ↔ v = .null ∨ w = .null) ∧
      (compared .eq v w = some true ↔ v ≠ .null ∧ v = w) := by
  rcases first with rfl | ⟨a, rfl⟩
  · simp [compared, compare_null]
  rcases second with rfl | ⟨b, rfl⟩
  · simp [compared, compare_null, Value.scalar_ne_null]
  obtain ⟨order, -, -, ordered⟩ := exists_order exact
  have same := compare_eq_iff exact a b
  rw [ordered, Option.some_inj] at same
  simp [compared, ordered, ← same, Checking.holds, Value.scalar_ne_null]

theorem isAmong_iff (exact : t ≠ .number) (first : v.Fits t) (known : v ≠ .null)
    {values : List Value} (fits : ∀ w ∈ values, w.Fits t) :
    Checking.isAmong v values = true ↔ v ∈ values := by
  rw [Checking.isAmong, List.any_eq_true]
  have equal {w : Value} (member : w ∈ values) : (v.compare? w == some .eq) = true ↔ v = w := by
    have decided := (compared_eq exact first (fits w member)).2
    rw [and_iff_right known] at decided
    rw [← decided, compared, Option.map_eq_some_iff]
    simp [Checking.holds]
  constructor
  · rintro ⟨w, member, same⟩
    exact (equal member).mp same ▸ member
  · exact fun member => ⟨v, member, (equal member).mpr rfl⟩

theorem Expr.fits_of_resolve {e : Expr} {env : Env} (typed : e.type? = some (.scalar t))
    (resolved : e.resolve env = .ok v) : v.Fits t := by
  obtain ⟨payload, rfl⟩ := Expr.exists_payload typed resolved
  cases payload with
  | none => exact .inl rfl
  | some a => exact .inr ⟨a, rfl⟩

end

/-! ### Comparisons in a row -/

/-- The node is accepted as a truth value, and resolves to the given one, NULL being `none`. -/
def Node.Decides [PatternLanguage] (scope : Scope) (env : Env) (node : Node) (b : Option Bool) : Prop :=
  ∃ f : Formula .boolean, node.check scope = .ok (.scalar .boolean f) ∧ f env = .ok b

/-- The node joins comparisons of the operand with each of the literals by a connective, bracketed
in any way. The operand stands in each of them, up to its positions. -/
inductive Chain (join : LogicalOp) (op : ComparisonOp) (x : Node) : List Literal → Node → Prop
  | single {operand : Node} (same : operand.erase = x.erase) (l : Literal) (p q : Option Position) :
    Chain join op x [l] ⟨.binary (.comparison op) operand ⟨.literal l, p⟩, q⟩
  | link {first second : List Literal} {left right : Node} (onLeft : Chain join op x first left)
    (onRight : Chain join op x second right) (p : Option Position) :
    Chain join op x (first ++ second) ⟨.binary (.logical join) left right, p⟩
  | parenthesis {list : List Literal} {inner : Node} (inside : Chain join op x list inner)
    (p : Option Position) : Chain join op x list ⟨.parenthesis inner, p⟩

section

variable {join : LogicalOp} {op : ComparisonOp} {x node : Node} {list : List Literal}
  {scope : Scope} {env : Env} {e : Expr} {t : ScalarType} {v : Value}

theorem Chain.ne_nil (chain : Chain join op x list node) : list ≠ [] := by
  induction chain with
  | single => exact List.cons_ne_nil _ _
  | link _ _ _ first => exact List.append_ne_nil_of_left_ne_nil first _
  | parenthesis _ _ ih => exact ih

theorem comparable_of_fits {w : Value} (fits : w.Fits t) :
    comparable (some (.scalar t)) w.type? = true := by
  rcases fits.type? with none | same
  · rw [none]
    rfl
  · rw [same]
    cases t <;> rfl

variable [PatternLanguage]

/-- Nodes that are equal up to positions resolve to one value. -/
theorem resolve_of_erase {y : Node} (same : y.erase = x.erase) (checked : x.check scope = .ok e)
    (resolved : e.resolve env = .ok v) :
    ∃ e', y.check scope = .ok e' ∧ e'.type? = e.type? ∧ e'.resolve env = .ok v := by
  have agree (z : Node) : ChecksAgree (.erased fun _ => True) Eq (z.check scope)
      (z.erase.check scope) := z.erase_agree scope fun _ _ _ _ => trivial
  obtain ⟨_, _, failed, -, -⟩ | ⟨_, bare, made, made', alike⟩ := (agree x).alike
  · cases checked.symm.trans failed
  cases checked.symm.trans made
  obtain ⟨_, _, -, failed, -⟩ | ⟨e', _, other, other', alike'⟩ := (agree y).alike
  · cases (same ▸ failed).symm.trans made'
  cases (same ▸ other').symm.trans made'
  refine ⟨e', other, alike'.type_eq.trans alike.type_eq.symm, ?_⟩
  obtain ⟨_, _, failed, -, -⟩ | ⟨_, _, given, given', rfl⟩ := (alike.resolve (Eq.refl env)).alike
  · cases resolved.symm.trans failed
  cases resolved.symm.trans given
  obtain ⟨_, _, -, failed, -⟩ | ⟨_, _, found, found', rfl⟩ := (alike'.resolve (Eq.refl env)).alike
  · cases failed.symm.trans given'
  · exact found.trans (found'.symm.trans given')

theorem Node.Decides.parenthesis {b : Option Bool} (h : node.Decides scope env b)
    (p : Option Position) : Node.Decides scope env ⟨.parenthesis node, p⟩ b := by
  obtain ⟨f, checked, given⟩ := h
  refine ⟨f.locate p, ?_, locate_eq_ok_iff.mpr given⟩
  rw [Node.check, Form.check, checked]
  rfl

theorem Node.Decides.logical {left right : Node} {a b : Option Bool} (join : LogicalOp)
    (first : left.Decides scope env a) (second : right.Decides scope env b) (p : Option Position) :
    Node.Decides scope env ⟨.binary (.logical join) left right, p⟩ (join.result a b) := by
  obtain ⟨f, checked, given⟩ := first
  obtain ⟨g, checked', given'⟩ := second
  exact ⟨_, check_logical join p ⟨_, checked, .scalar f⟩ ⟨_, checked', .scalar g⟩,
    locate_eq_ok_iff.mpr (join.combine_ok given given')⟩

theorem literal_resolves (scope : Scope) (env : Env) (l : Literal) (p : Option Position) :
    ∃ e, Node.check scope ⟨.literal l, p⟩ = .ok e ∧ e.type? = l.value.type? ∧
      e.resolve env = .ok l.value := by
  cases l <;> exact ⟨_, rfl, rfl, rfl⟩

theorem comparison_decides {left right : Node} {d : Expr} {w : Value} (p : Option Position)
    (first : left.check scope = .ok d) (second : right.check scope = .ok e)
    (comparing : comparable d.type? e.type? = true) (given : d.resolve env = .ok v)
    (given' : e.resolve env = .ok w) :
    Node.Decides scope env ⟨.binary (.comparison op) left right, p⟩ (compared op v w) := by
  refine ⟨Formula.locate p fun env => do
    let v ← d.resolve env
    let w ← e.resolve env
    return compared op v w, ?_, locate_eq_ok_iff.mpr ?_⟩
  · rw [Node.check, Form.check, Checking.binary, Checking.comparison, first, second, ok_bind,
      ok_bind, if_pos comparing]
    rfl
  · dsimp only
    rw [given, given']
    rfl

theorem Chain.decides (chain : Chain join op x list node) (typed : e.type? = some (.scalar t))
    (checked : x.check scope = .ok e) (resolved : e.resolve env = .ok v)
    (fits : ∀ l ∈ list, l.value.Fits t) :
    node.Decides scope env (join.fold (list.map fun l => compared op v l.value)) := by
  induction chain with
  | single same l p q =>
    obtain ⟨e', checked', typed', resolved'⟩ := resolve_of_erase same checked resolved
    obtain ⟨d, known, literal, given⟩ := literal_resolves scope env l p
    have comparing := comparable_of_fits (fits l List.mem_cons_self)
    rw [← typed, ← typed', ← literal] at comparing
    rw [List.map_singleton, LogicalOp.fold_singleton]
    exact comparison_decides q checked' known comparing resolved' given
  | link _ _ p first second =>
    obtain ⟨onLeft, onRight⟩ := List.forall_mem_append.mp fits
    rw [List.map_append, join.fold_append]
    exact (first onLeft).logical join (second onRight) p
  | parenthesis _ p ih => exact (ih fits).parenthesis p

theorem membership_decides (typed : e.type? = some (.scalar t)) (checked : x.check scope = .ok e)
    (resolved : e.resolve env = .ok v) (fits : ∀ l ∈ list, l.value.Fits t) (negated : Bool)
    (p : Option Position) : Node.Decides scope env ⟨.membership negated x list, p⟩
      (if v.isNull then none
        else some (Checking.isAmong v (list.map Literal.value) != negated)) := by
  have none_refused :
      (list.map Literal.value).find? (fun w => !comparable e.type? w.type?) = none := by
    rw [List.find?_eq_none]
    intro w member
    obtain ⟨l, listed, rfl⟩ := List.mem_map.mp member
    rw [typed, comparable_of_fits (fits l listed)]
    exact nofun
  refine ⟨Formula.locate p fun env => do
    let v ← e.resolve env
    return if v.isNull then none
      else some (Checking.isAmong v (list.map Literal.value) != negated), ?_, ?_⟩
  · rw [Node.check, Form.check, Checking.membership, checked, ok_bind]
    simp only [none_refused]
    rfl
  · refine locate_eq_ok_iff.mpr ?_
    dsimp only
    rw [resolved]
    rfl

end

/-! ### Main statement -/

/-- No literal is the value, and NULL, of which it is not known, is among them. -/
def Open (v : Value) (list : List Literal) : Prop :=
  v ≠ .null ∧ .null ∈ list ∧ v ∉ list.map Literal.value

section

variable {t : ScalarType} {v : Value} {list : List Literal}

theorem true_mem_equalities (exact : t ≠ .number) (first : v.Fits t)
    (fits : ∀ l ∈ list, l.value.Fits t) :
    some true ∈ list.map (fun l => compared .eq v l.value) ↔
      v ≠ .null ∧ v ∈ list.map Literal.value := by
  simp only [List.mem_map]
  constructor
  · rintro ⟨l, listed, equal⟩
    obtain ⟨known, same⟩ := (compared_eq exact first (fits l listed)).2.mp equal
    exact ⟨known, l, listed, same.symm⟩
  · rintro ⟨known, l, listed, same⟩
    exact ⟨l, listed, (compared_eq exact first (fits l listed)).2.mpr ⟨known, same.symm⟩⟩

theorem none_mem_equalities (exact : t ≠ .number) (first : v.Fits t)
    (fits : ∀ l ∈ list, l.value.Fits t) (known : v ≠ .null) :
    none ∈ list.map (fun l => compared .eq v l.value) ↔ .null ∈ list := by
  have blank (l : Literal) : l.value = .null ↔ l = .null := by cases l <;> simp [Literal.value]
  have unknown (l : Literal) (listed : l ∈ list) : compared .eq v l.value = none ↔ l = .null := by
    rw [(compared_eq exact first (fits l listed)).1, or_iff_right known, blank]
  rw [List.mem_map]
  constructor
  · rintro ⟨l, listed, open'⟩
    exact (unknown l listed).mp open' ▸ listed
  · exact fun listed => ⟨.null, listed, (unknown .null listed).mpr rfl⟩

theorem equalities_open (exact : t ≠ .number) (first : v.Fits t)
    (fits : ∀ l ∈ list, l.value.Fits t) (h : Open v list) :
    LogicalOp.or.fold (list.map fun l => compared .eq v l.value) = none := by
  obtain ⟨known, blank, unlisted⟩ := h
  rw [LogicalOp.fold_or, if_neg, if_pos ((none_mem_equalities exact first fits known).mpr blank)]
  exact fun met => unlisted ((true_mem_equalities exact first fits).mp met).2

/-- A disjunction of equalities gives what membership gives, unless that is open. -/
theorem equalities_eq (exact : t ≠ .number) (first : v.Fits t) (fits : ∀ l ∈ list, l.value.Fits t)
    (listing : list ≠ []) (h : ¬ Open v list) :
    LogicalOp.or.fold (list.map fun l => compared .eq v l.value) =
      if v.isNull then none else some (Checking.isAmong v (list.map Literal.value)) := by
  have met := true_mem_equalities exact first fits
  rw [LogicalOp.fold_or]
  by_cases null : v = .null
  · subst null
    obtain ⟨l, listed⟩ := List.exists_mem_of_ne_nil list listing
    rw [if_neg (fun h => (met.mp h).1 rfl), if_pos]
    · rfl
    · exact List.mem_map.mpr ⟨l, listed, by simp [compared, compare_null]⟩
  have known : v.isNull = false := Bool.eq_false_iff.mpr (mt v.isNull_iff.mp null)
  have among := isAmong_iff exact first null (List.forall_mem_map.mpr fits)
  rw [known]
  by_cases listed : v ∈ list.map Literal.value
  · rw [if_pos (met.mpr ⟨null, listed⟩), among.mpr listed]
    rfl
  · have unlisted := Bool.eq_false_iff.mpr (mt among.mp listed)
    rw [if_neg fun h => listed (met.mp h).2, if_neg, unlisted]
    · rfl
    · exact fun blank => h ⟨null, (none_mem_equalities exact first fits null).mp blank, listed⟩

end

/-- An operand of a type other than Number is in a list of literals as the disjunction of its
equalities with them says, and not in it as the conjunction of its inequalities says. Each pair gives
the same truth value or NULL, unless NULL is among the literals and the value is neither that nor
one of them: the value is then not in the list, and both connectives give NULL. -/
theorem membership_and_equalities [PatternLanguage] {x anyOf noneOf : Node} {scope : Scope}
    {env : Env} {e : Expr} {t : ScalarType} {v : Value} {list : List Literal} (p q : Option Position)
    (checked : x.check scope = .ok e) (typed : e.type? = some (.scalar t)) (exact : t ≠ .number)
    (fits : ∀ l ∈ list, l.value.Fits t) (resolved : e.resolve env = .ok v)
    (equalities : Chain .or .eq x list anyOf) (inequalities : Chain .and .ne x list noneOf) :
    (Open v list →
      Node.Decides scope env ⟨.membership false x list, p⟩ (some false) ∧
      anyOf.Decides scope env none ∧
      Node.Decides scope env ⟨.membership true x list, q⟩ (some true) ∧
      noneOf.Decides scope env none) ∧
    (¬ Open v list → ∃ b : Option Bool,
      Node.Decides scope env ⟨.membership false x list, p⟩ b ∧
      anyOf.Decides scope env b ∧
      Node.Decides scope env ⟨.membership true x list, q⟩ (b.map (!·)) ∧
      noneOf.Decides scope env (b.map (!·))) := by
  have first := e.fits_of_resolve typed resolved
  have member := membership_decides typed checked resolved fits false p
  have stranger := membership_decides typed checked resolved fits true q
  have any := equalities.decides typed checked resolved fits
  have none := inequalities.decides typed checked resolved fits
  have negated : list.map (fun l => compared .ne v l.value) =
      (list.map fun l => compared .eq v l.value).map (·.map (!·)) := by
    simp [compared_ne]
  rw [negated, LogicalOp.fold_and_not] at none
  refine ⟨fun undecided => ?_, fun decided => ?_⟩
  · have known : v.isNull = false := Bool.eq_false_iff.mpr (mt v.isNull_iff.mp undecided.1)
    have unlisted : Checking.isAmong v (list.map Literal.value) = false :=
      Bool.eq_false_iff.mpr <| mt
        (isAmong_iff exact first undecided.1 (List.forall_mem_map.mpr fits)).mp undecided.2.2
    rw [equalities_open exact first fits undecided] at any none
    rw [known, unlisted] at member stranger
    exact ⟨member, any, stranger, none⟩
  · rw [equalities_eq exact first fits equalities.ne_nil decided] at any none
    refine ⟨_, ?_, any, ?_, none⟩
    · simpa only [Bool.bne_false] using member
    · simpa only [Bool.bne_true, apply_ite, Option.map_none, Option.map_some] using stranger

namespace Grades

def grade : Node := ⟨.name "grade", none⟩

/-- The bindings `grade := 2`. -/
def graded : Bindings := [("grade", .integer 2)]

def oneOrMissing : List Literal := [.integer 1, .null]

def twoOrMissing : List Literal := [.integer 2, .null]

/-- The expression `grade = 2 or grade = null`, or with another connective and comparison. -/
def compareBoth (join : LogicalOp) (op : ComparisonOp) (first : Literal) : Node :=
  ⟨.binary (.logical join) ⟨.binary (.comparison op) grade ⟨.literal first, none⟩, none⟩
    ⟨.binary (.comparison op) grade ⟨.literal .null, none⟩, none⟩, none⟩

theorem compareBoth_chain (join : LogicalOp) (op : ComparisonOp) (first : Literal) :
    Chain join op grade [first, .null] (compareBoth join op first) :=
  .link (.single rfl first none none) (.single rfl .null none none) none

end Grades

open Grades in
theorem grade_listed :
    (∀ l ∈ twoOrMissing, l.value.Fits .integer) ∧ ¬ Open (.integer 2) twoOrMissing ∧
      Node.Decides graded.scope graded.env ⟨.membership false grade twoOrMissing, none⟩
        (some true) ∧
      (compareBoth .or .eq (.integer 2)).Decides graded.scope graded.env (some true) ∧
      Node.Decides graded.scope graded.env ⟨.membership true grade twoOrMissing, none⟩
        (some false) ∧
      (compareBoth .and .ne (.integer 2)).Decides graded.scope graded.env (some false) := by
  have fits : ∀ l ∈ twoOrMissing, l.value.Fits .integer := by
    rintro l listed
    rcases List.mem_pair.mp listed with rfl | rfl
    · exact .inr ⟨2, rfl⟩
    · exact .inl rfl
  have decided : ¬ Open (.integer 2) twoOrMissing := fun h => h.2.2 List.mem_cons_self
  obtain ⟨e, checked, typed, resolved⟩ : ∃ e, grade.check graded.scope = .ok e ∧
      e.type? = some .integer ∧ e.resolve graded.env = .ok (.integer 2) := ⟨_, rfl, rfl, rfl⟩
  obtain ⟨b, member, any, stranger, none⟩ :=
    (membership_and_equalities none none checked typed nofun fits resolved
      (compareBoth_chain .or .eq _) (compareBoth_chain .and .ne _)).2 decided
  obtain ⟨f, checked, given⟩ := member
  cases checked
  cases given
  exact ⟨fits, decided, ⟨_, rfl, rfl⟩, any, stranger, none⟩

open Grades in
/-- The grade is not in the list, and may be one of its members. -/
theorem open_grade :
    Chain .or .eq grade oneOrMissing (compareBoth .or .eq (.integer 1)) ∧
      Node.Decides graded.scope graded.env ⟨.membership false grade oneOrMissing, none⟩
        (some false) ∧
      (compareBoth .or .eq (.integer 1)).Decides graded.scope graded.env none :=
  ⟨compareBoth_chain .or .eq _, ⟨_, rfl, rfl⟩, ⟨_, rfl, rfl⟩⟩

end DatasetScript
