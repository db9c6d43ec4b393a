import DatasetScript.Checking.Node
import DatasetScript.Pattern.Matcher
import DatasetScript.Proofs.IntegerSums
/-!
# Expressions over integers

Trees of integers, NULL and integer variables with sums, differences, products, signs, magnitudes and
remainders. They are accepted and never fail; each node has the exact value of its operation where that
fits, and is NULL otherwise. A remainder is NULL with its quotient too, so that the least integer has no
remainder by minus one, although zero fits. Main statement: `integer_trees_exact_iff`.
-/

namespace DatasetScript

/-! ### Exact operations -/

/-- An exact result, if it fits. -/
def fitting (n : Int) : Option Int := if FitsInt64 n then some n else none

theorem fitting_toInt (i : Int64) : fitting i.toInt = some i.toInt :=
  if_pos ⟨Int64.le_toInt i, Int64.toInt_lt i⟩

theorem map_toInt64? (n : Int) : (toInt64? n).map Int64.toInt = fitting n := by
  unfold toInt64? fitting
  split
  · rename_i fits
    exact congrArg some (toInt_ofInt fits)
  · rfl

inductive IntegerMap where
  | plus
  | minus
  | abs

inductive IntegerOp where
  | add
  | sub
  | mul
  | mod

/-- The remainder of the division that truncates, where the modulus is not zero. -/
def exactRemainder (a b : Int) : Option Int := if b = 0 then none else some (a.tmod b)

/-- The remainder where there is one and the quotient fits too. -/
def quotientRemainder (a b : Int) : Option Int :=
  if FitsInt64 (a.tdiv b) then exactRemainder a b else none

def IntegerMap.exact : IntegerMap → Int → Int
  | plus, a => a
  | minus, a => -a
  | abs, a => a.natAbs

def IntegerOp.exact (remainder : Int → Int → Option Int) : IntegerOp → Int → Int → Option Int
  | add, a, b => some (a + b)
  | sub, a, b => some (a - b)
  | mul, a, b => some (a * b)
  | mod, a, b => remainder a b

/-! ### Trees -/

inductive IntegerTree where
  | null (p : Option Position)
  | literal (i : Int64) (p : Option Position)
  | name (name : String) (p : Option Position)
  | parenthesis (inner : IntegerTree) (p : Option Position)
  | unary (op : IntegerMap) (operand : IntegerTree) (p : Option Position)
  | binary (op : IntegerOp) (left right : IntegerTree) (p : Option Position)

def IntegerMap.form : IntegerMap → Node → Form
  | plus, operand => .unary .plus operand
  | minus, operand => .unary .minus operand
  | abs, operand => .call .numeric "abs" [operand]

def IntegerOp.form : IntegerOp → Node → Node → Form
  | add, left, right => .binary (.additive .plus) left right
  | sub, left, right => .binary (.additive .minus) left right
  | mul, left, right => .binary (.multiplicative .mul) left right
  | mod, left, right => .call .numeric "mod" [left, right]

namespace IntegerTree

def node : IntegerTree → Node
  | null p => ⟨.literal .null, p⟩
  | literal i p => ⟨.literal (.integer i), p⟩
  | name x p => ⟨.name x, p⟩
  | parenthesis inner p => ⟨.parenthesis inner.node, p⟩
  | unary op operand p => ⟨op.form operand.node, p⟩
  | binary op left right p => ⟨op.form left.node right.node, p⟩

/-- The value of a tree, bottom up. A node has none where an operand has none, where a remainder is
missing, and where the exact value does not fit. -/
def evaluate (remainder : Int → Int → Option Int) (values : String → Option Int) :
    IntegerTree → Option Int
  | null _ => none
  | literal i _ => some i.toInt
  | name x _ => values x
  | parenthesis inner _ => inner.evaluate remainder values
  | unary op operand _ => do
    let a ← operand.evaluate remainder values
    fitting (op.exact a)
  | binary op left right _ => do
    let a ← left.evaluate remainder values
    let b ← right.evaluate remainder values
    let n ← op.exact remainder a b
    fitting n

/-- The tree itself and all trees within. -/
def parts : IntegerTree → List IntegerTree
  | parenthesis inner p => parenthesis inner p :: inner.parts
  | unary op operand p => unary op operand p :: operand.parts
  | binary op left right p => binary op left right p :: (left.parts ++ right.parts)
  | t => [t]

/-- The names of variables. -/
def names : IntegerTree → List String
  | null _ | literal _ _ => []
  | name x _ => [x]
  | parenthesis inner _ => inner.names
  | unary _ operand _ => operand.names
  | binary _ left right _ => left.names ++ right.names

end IntegerTree

/-! ### Resolution -/

/-- The integers that variables are bound to. -/
def Env.integers (env : Env) (name : String) : Option Int :=
  (env name).bind fun v => v.integer?.map Int64.toInt

/-- The expression counts as an integer, or NULL, with a given value. -/
inductive Expr.HasInteger (env : Env) : Expr → Option Int64 → Prop
  | null : Expr.HasInteger env .null none
  | scalar {f : Formula .integer} {v : Option Int64} (h : f env = .ok v) :
    Expr.HasInteger env (.scalar .integer f) v

namespace Expr.HasInteger

variable {env : Env} {e : Expr} {v : Option Int64}

theorem resolve (h : e.HasInteger env v) : e.resolve env = .ok (.ofOption .integer v) := by
  cases h with
  | null => rfl
  | @scalar f v made =>
    change (f env >>= fun payload => pure (Value.ofOption .integer payload)) = _
    rw [made]
    rfl

theorem typed (h : e.HasInteger env v) : e.type? = none ∨ e.type? = some .integer := by
  cases h with
  | null => exact .inl rfl
  | scalar => exact .inr rfl

theorem numeric (h : e.HasInteger env v) :
    ∃ f : Formula .integer, (∀ node, e.asNumeric node = .ok (.integer f)) ∧ f env = .ok v := by
  cases h with
  | null => exact ⟨.null, fun _ => rfl, rfl⟩
  | @scalar f _ made => exact ⟨f, fun _ => rfl, made⟩

theorem locate (h : e.HasInteger env v) (p : Option Position) : (e.locate p).HasInteger env v := by
  cases h with
  | null => exact .null
  | @scalar f _ made => exact .scalar (locate_eq_ok_iff.mpr made)

end Expr.HasInteger

theorem map_made {env : Env} {f : Formula .integer} {v : Option Int64} (h : f env = .ok v)
    (g : Int64 → Option Int64) : (f.map g : Formula .integer) env = .ok (v.bind g) := by
  change (f env >>= fun payload => pure (payload.bind g)) = _
  rw [h]
  rfl

theorem zip_made {env : Env} {f g : Formula .integer} {v w : Option Int64} (first : f env = .ok v)
    (second : g env = .ok w) (h : Int64 → Int64 → Option Int64) :
    (f.zip g h : Formula .integer) env = .ok (v.bind fun a => w.bind (h a)) := by
  unfold Formula.zip
  rw [first]
  cases v with
  | none => rfl
  | some a =>
    rw [ok_bind, second]
    cases w <;> rfl

/-! ### Checked operations are exact -/

def IntegerMap.checked : IntegerMap → Int64 → Option Int64
  | plus, a => some a
  | minus, a => Checked.neg a
  | abs, a => Checked.abs a

def IntegerOp.checked : IntegerOp → Int64 → Int64 → Option Int64
  | add => Checked.add
  | sub => Checked.sub
  | mul => Checked.mul
  | mod => Checked.rem

theorem IntegerMap.checked_exact (op : IntegerMap) (a : Int64) :
    (op.checked a).map Int64.toInt = fitting (op.exact a.toInt) := by
  cases op with
  | plus => exact (fitting_toInt a).symm
  | minus => exact map_toInt64? (-a.toInt)
  | abs => exact map_toInt64? (a.toInt.natAbs : Int)

theorem rem_exact (a b : Int64) :
    (Checked.rem a b).map Int64.toInt = (quotientRemainder a.toInt b.toInt).bind fitting := by
  unfold Checked.rem quotientRemainder exactRemainder
  by_cases zero : b.toInt = 0
  · rw [if_pos zero, if_pos zero, ite_self]
    rfl
  · rw [if_neg zero, if_neg zero]
    by_cases fits : FitsInt64 (a.toInt.tdiv b.toInt)
    · rw [toInt64?, if_pos fits, if_pos fits]
      exact map_toInt64? (a.toInt.tmod b.toInt)
    · rw [toInt64?, if_neg fits, if_neg fits]
      rfl

theorem IntegerOp.checked_exact (op : IntegerOp) (a b : Int64) :
    (op.checked a b).map Int64.toInt =
      (op.exact quotientRemainder a.toInt b.toInt).bind fitting := by
  cases op with
  | add => exact map_toInt64? (a.toInt + b.toInt)
  | sub => exact map_toInt64? (a.toInt - b.toInt)
  | mul => exact map_toInt64? (a.toInt * b.toInt)
  | mod => exact rem_exact a b

/-! ### Checking trees -/

section

variable [PatternLanguage] {scope : Scope} {env : Env}

/-- A node is accepted, as an integer of the given value. -/
def Node.IntegerIn (node : Node) (scope : Scope) (env : Env) (v : Option Int64) : Prop :=
  ∃ e, node.check scope = .ok e ∧ e.HasInteger env v

theorem integerIn_of_form {form : Form} {p : Option Position} {e : Expr} {v : Option Int64}
    (checked : form.check scope = .ok e) (h : e.HasInteger env v) :
    Node.IntegerIn ⟨form, p⟩ scope env v := by
  refine ⟨e.locate p, ?_, h.locate p⟩
  rw [Node.check, checked]
  rfl

theorem Node.IntegerIn.asNumeric {node : Node} {v : Option Int64} (h : node.IntegerIn scope env v) :
    ∃ (e : Expr) (f : Formula .integer),
      node.check scope = .ok e ∧ e.asNumeric node = .ok (.integer f) ∧ f env = .ok v := by
  obtain ⟨e, checked, h⟩ := h
  obtain ⟨f, numeric, made⟩ := h.numeric
  exact ⟨e, f, checked, numeric node, made⟩

theorem Node.IntegerIn.numeric {node : Node} {v : Option Int64} (h : node.IntegerIn scope env v) :
    ∃ f : Formula .integer,
      Operand.numeric ⟨node, node.check scope⟩ = .ok (.integer f) ∧ f env = .ok v := by
  obtain ⟨e, f, checked, numeric, made⟩ := h.asNumeric
  refine ⟨f, ?_, made⟩
  rw [Operand.numeric, checked]
  exact numeric

theorem unary_integerIn (op : IntegerMap) {operand : Node} {v : Option Int64} (p : Option Position)
    (h : operand.IntegerIn scope env v) :
    Node.IntegerIn ⟨op.form operand, p⟩ scope env (v.bind op.checked) := by
  obtain ⟨f, numeric, made⟩ := h.numeric
  cases op with
  | plus =>
    refine integerIn_of_form (e := .scalar .integer f) ?_ (.scalar ?_)
    · simp only [IntegerMap.form, Form.check, Checking.unary, numeric]
      rfl
    · rw [made]
      cases v <;> rfl
  | minus =>
    refine integerIn_of_form (e := .scalar .integer (f.map Checked.neg)) ?_
      (.scalar (map_made made _))
    simp only [IntegerMap.form, Form.check, Checking.unary, numeric]
    rfl
  | abs =>
    refine integerIn_of_form (e := .scalar .integer (f.map Checked.abs)) ?_
      (.scalar (map_made made _))
    change (Operand.numeric ⟨operand, operand.check scope⟩ >>= _) = _
    rw [numeric]
    rfl

theorem additive_integerIn {op : AdditiveOp} {h : Int64 → Int64 → Option Int64} {left right : Node}
    {v w : Option Int64} (p : Option Position) (l : left.IntegerIn scope env v)
    (r : right.IntegerIn scope env w)
    (rule : (op = .plus ∧ h = Checked.add) ∨ (op = .minus ∧ h = Checked.sub)) :
    Node.IntegerIn ⟨.binary (.additive op) left right, p⟩ scope env
      (v.bind fun a => w.bind (h a)) := by
  obtain ⟨e, f, checked, first, made⟩ := l.asNumeric
  obtain ⟨e', g, checked', second, made'⟩ := r.asNumeric
  refine integerIn_of_form (e := .scalar .integer (f.zip g h)) ?_ (.scalar (zip_made made made' _))
  rw [Form.check, checked, checked', Checking.binary, Checking.additive]
  simp only [ok_bind]
  rcases rule with ⟨rfl, rfl⟩ | ⟨rfl, rfl⟩ <;> simp only [first, second] <;> rfl

theorem binary_integerIn (op : IntegerOp) {left right : Node} {v w : Option Int64}
    (p : Option Position) (l : left.IntegerIn scope env v) (r : right.IntegerIn scope env w) :
    Node.IntegerIn ⟨op.form left right, p⟩ scope env (v.bind fun a => w.bind (op.checked a)) := by
  obtain ⟨f, first, made⟩ := l.numeric
  obtain ⟨g, second, made'⟩ := r.numeric
  cases op with
  | add => exact additive_integerIn p l r (.inl ⟨rfl, rfl⟩)
  | sub => exact additive_integerIn p l r (.inr ⟨rfl, rfl⟩)
  | mul =>
    refine integerIn_of_form (e := .scalar .integer (f.zip g Checked.mul)) ?_
      (.scalar (zip_made made made' _))
    simp only [IntegerOp.form, Form.check, Checking.binary, Checking.multiplicative, first, second]
    rfl
  | mod =>
    refine integerIn_of_form (e := .scalar .integer (f.zip g Checked.rem)) ?_
      (.scalar (zip_made made made' _))
    change (Operand.numeric ⟨left, left.check scope⟩ >>= fun x =>
      Operand.numeric ⟨right, right.check scope⟩ >>= _) = _
    rw [first, ok_bind, second]
    rfl

theorem name_integerIn {name : String} (p : Option Position)
    (declared : scope name = some (.column .integer)) {v : Value} (bound : env name = some v)
    (integral : v.Integral) : Node.IntegerIn ⟨.name name, p⟩ scope env v.integer? := by
  refine integerIn_of_form (e := .scalar .integer (.ofValues .integer (Checking.boundValue name)))
    ?_ (.scalar ?_)
  · rw [Form.check, Checking.variableNamed, declared]
    rfl
  · change (Checking.boundValue name env >>= ScalarType.integer.payload) = _
    rw [Checking.boundValue, bound]
    rcases integral with rfl | ⟨n, rfl⟩ <;> rfl

end

/-- Variables are declared as integers and bound to integers or NULL. -/
def IntegerTree.Bound (t : IntegerTree) (scope : Scope) (env : Env) : Prop :=
  ∀ name ∈ t.names, scope name = some (.column .integer) ∧ ∃ v, env name = some v ∧ v.Integral

namespace IntegerTree

variable {scope : Scope} {env : Env}

theorem node_integerIn [PatternLanguage] {t : IntegerTree} (bound : t.Bound scope env) :
    ∃ v : Option Int64, t.node.IntegerIn scope env v ∧
      v.map Int64.toInt = t.evaluate quotientRemainder env.integers := by
  induction t with
  | null p => exact ⟨none, integerIn_of_form rfl .null, rfl⟩
  | literal i p => exact ⟨some i, integerIn_of_form rfl (.scalar rfl), rfl⟩
  | name x p =>
    obtain ⟨declared, v, given, integral⟩ := bound x List.mem_cons_self
    refine ⟨v.integer?, name_integerIn p declared given integral, ?_⟩
    rw [evaluate, Env.integers, given]
    rfl
  | parenthesis inner p ih =>
    obtain ⟨v, ⟨e, checked, h⟩, exact⟩ := ih bound
    exact ⟨v, integerIn_of_form checked h, exact⟩
  | unary op operand p ih =>
    obtain ⟨v, accepted, exact⟩ := ih bound
    refine ⟨v.bind op.checked, unary_integerIn op p accepted, ?_⟩
    rw [evaluate, ← exact]
    cases v with
    | none => rfl
    | some a => exact op.checked_exact a
  | binary op left right p first second =>
    obtain ⟨v, accepted, exact⟩ := first fun x member => bound x (List.mem_append_left _ member)
    obtain ⟨w, accepted', exact'⟩ := second fun x member => bound x (List.mem_append_right _ member)
    refine ⟨_, binary_integerIn op p accepted accepted', ?_⟩
    rw [evaluate, ← exact, ← exact']
    cases v with
    | none => rfl
    | some a =>
      cases w with
      | none => rfl
      | some b => exact op.checked_exact a b

end IntegerTree

/-! ### Remainders whose quotient does not fit -/

theorem fits_tdiv_iff {a b : Int} (fits : FitsInt64 a) (nonzero : b ≠ 0) :
    FitsInt64 (a.tdiv b) ↔ ¬ (a = -9223372036854775808 ∧ b = -1) := by
  by_cases one : b = 1
  · rw [one, Int.tdiv_one]
    exact iff_of_true fits (by omega)
  by_cases minus : b = -1
  · rw [minus, Int.tdiv_neg, Int.tdiv_one]
    omega
  · have size : (a.tdiv b).natAbs = a.natAbs / b.natAbs := Int.natAbs_tdiv a b
    have half : a.natAbs / b.natAbs ≤ a.natAbs / 2 := Nat.div_le_div_left (by omega) (by decide)
    omega

/-- For 64-bit integers the quotient and the remainder are missing together, except where the least
integer is divided by minus one. -/
theorem quotientRemainder_eq_iff {a b : Int} (fits : FitsInt64 a) :
    quotientRemainder a b = exactRemainder a b ↔ ¬ (a = -9223372036854775808 ∧ b = -1) := by
  unfold quotientRemainder
  by_cases zero : b = 0
  · have missing : exactRemainder a b = none := if_pos zero
    rw [missing, ite_self]
    exact iff_of_true rfl (by omega)
  · rw [← fits_tdiv_iff fits zero, exactRemainder, if_neg zero]
    by_cases quotient : FitsInt64 (a.tdiv b)
    · rw [if_pos quotient]
      exact iff_of_true rfl quotient
    · rw [if_neg quotient]
      exact iff_of_false nofun quotient

namespace IntegerTree

/-- The values of variables are 64-bit integers. -/
def ValuesFit (values : String → Option Int) : Prop := ∀ name n, values name = some n → FitsInt64 n

theorem integers_fit (env : Env) : ValuesFit env.integers := by
  intro name n given
  obtain ⟨v, -, given⟩ := Option.bind_eq_some_iff.mp given
  obtain ⟨i, -, rfl⟩ := Option.map_eq_some_iff.mp given
  exact ⟨Int64.le_toInt i, Int64.toInt_lt i⟩

theorem fitting_fits {n m : Int} (h : fitting n = some m) : FitsInt64 m := by
  unfold fitting at h
  split at h
  · cases h
    assumption
  · cases h

variable {remainder : Int → Int → Option Int} {values : String → Option Int}

theorem evaluate_fits (fit : ValuesFit values) {t : IntegerTree} {n : Int}
    (h : t.evaluate remainder values = some n) : FitsInt64 n := by
  induction t generalizing n with
  | null p => cases h
  | literal i p =>
    cases h
    exact ⟨Int64.le_toInt i, Int64.toInt_lt i⟩
  | name x p => exact fit x n h
  | parenthesis inner p ih => exact ih h
  | unary op operand p ih =>
    obtain ⟨a, -, h⟩ := Option.bind_eq_some_iff.mp h
    exact fitting_fits h
  | binary op left right p first second =>
    obtain ⟨a, -, h⟩ := Option.bind_eq_some_iff.mp h
    obtain ⟨b, -, h⟩ := Option.bind_eq_some_iff.mp h
    obtain ⟨m, -, h⟩ := Option.bind_eq_some_iff.mp h
    exact fitting_fits h

/-- A remainder of the least integer by minus one. -/
def DividesLeast (values : String → Option Int) : IntegerTree → Prop
  | binary .mod left right _ =>
    left.evaluate exactRemainder values = some (-9223372036854775808) ∧
      right.evaluate exactRemainder values = some (-1)
  | _ => False

theorem mem_parts (t : IntegerTree) : t ∈ t.parts := by
  cases t <;> exact List.mem_cons_self

/-- Where the operands are exact, an operation is exact unless it divides the least integer by minus
one. -/
theorem evaluate_binary_eq_iff (fit : ValuesFit values) (op : IntegerOp) {left right : IntegerTree}
    (p : Option Position)
    (first : left.evaluate quotientRemainder values = left.evaluate exactRemainder values)
    (second : right.evaluate quotientRemainder values = right.evaluate exactRemainder values) :
    (binary op left right p).evaluate quotientRemainder values =
        (binary op left right p).evaluate exactRemainder values ↔
      ¬ (binary op left right p).DividesLeast values := by
  cases op with
  | mod =>
    rw [evaluate, evaluate, first, second, DividesLeast]
    cases l : left.evaluate exactRemainder values with
    | none => exact iff_of_true rfl nofun
    | some a =>
      cases r : right.evaluate exactRemainder values with
      | none => exact iff_of_true rfl nofun
      | some b =>
        change (quotientRemainder a b >>= fitting) = (exactRemainder a b >>= fitting) ↔ _
        rw [Option.some_inj, Option.some_inj]
        by_cases edge : a = -9223372036854775808 ∧ b = -1
        · obtain ⟨rfl, rfl⟩ := edge
          decide
        · rw [(quotientRemainder_eq_iff (evaluate_fits fit l)).mpr edge]
          exact iff_of_true rfl edge
  | _ => exact iff_of_true (by rw [evaluate, evaluate, first, second]; rfl) nofun

theorem evaluate_parts_eq_iff (fit : ValuesFit values) (t : IntegerTree) :
    (∀ part ∈ t.parts,
        part.evaluate quotientRemainder values = part.evaluate exactRemainder values) ↔
      ∀ part ∈ t.parts, ¬ part.DividesLeast values := by
  induction t with
  | null p => simp [parts, DividesLeast, evaluate]
  | literal i p => simp [parts, DividesLeast, evaluate]
  | name x p => simp [parts, DividesLeast, evaluate]
  | parenthesis inner p ih =>
    rw [parts, List.forall_mem_cons, List.forall_mem_cons, ih, evaluate, evaluate]
    refine ⟨fun ⟨_, rest⟩ => ⟨nofun, rest⟩, fun ⟨_, rest⟩ => ⟨?_, rest⟩⟩
    exact ih.mpr rest inner inner.mem_parts
  | unary op operand p ih =>
    rw [parts, List.forall_mem_cons, List.forall_mem_cons, ih, evaluate, evaluate]
    refine ⟨fun ⟨_, rest⟩ => ⟨nofun, rest⟩, fun ⟨_, rest⟩ => ⟨?_, rest⟩⟩
    rw [ih.mpr rest operand operand.mem_parts]
  | binary op left right p first second =>
    rw [parts, List.forall_mem_cons, List.forall_mem_cons, List.forall_mem_append,
      List.forall_mem_append, first, second]
    refine and_congr_left fun ⟨l, r⟩ => evaluate_binary_eq_iff fit op p ?_ ?_
    · exact first.mpr l left left.mem_parts
    · exact second.mpr r right right.mem_parts

/-! ### Main statement -/

theorem ofOption_integer_inj {v w : Option Int64}
    (same : Value.ofOption .integer v = Value.ofOption .integer w) : v = w := by
  cases v <;> cases w <;> cases same <;> rfl

theorem Bound.part {t part : IntegerTree} (bound : t.Bound scope env) (member : part ∈ t.parts) :
    part.Bound scope env := by
  induction t with
  | null | literal | name =>
    obtain rfl := List.mem_singleton.mp member
    exact bound
  | parenthesis inner p ih =>
    rcases List.mem_cons.mp member with rfl | within
    · exact bound
    · exact ih bound within
  | unary op operand p ih =>
    rcases List.mem_cons.mp member with rfl | within
    · exact bound
    · exact ih bound within
  | binary op left right p first second =>
    rcases List.mem_cons.mp member with rfl | within
    · exact bound
    · rcases List.mem_append.mp within with l | r
      · exact first (fun x named => bound x (List.mem_append_left _ named)) l
      · exact second (fun x named => bound x (List.mem_append_right _ named)) r

section

variable [PatternLanguage]

/-- The tree is accepted, as an integer or as NULL without a type, and resolves to the given integer or
to NULL. -/
def ResolvesTo (t : IntegerTree) (scope : Scope) (env : Env) (n : Option Int) : Prop :=
  ∃ e v, t.node.check scope = .ok e ∧ (e.type? = none ∨ e.type? = some .integer) ∧
    e.resolve env = .ok (.ofOption .integer v) ∧ v.map Int64.toInt = n

theorem resolvesTo_evaluate {t : IntegerTree} (bound : t.Bound scope env) :
    t.ResolvesTo scope env (t.evaluate quotientRemainder env.integers) := by
  obtain ⟨v, ⟨e, checked, h⟩, exact⟩ := node_integerIn bound
  exact ⟨e, v, checked, h.typed, h.resolve, exact⟩

theorem ResolvesTo.unique {t : IntegerTree} {n m : Option Int} (first : t.ResolvesTo scope env n)
    (second : t.ResolvesTo scope env m) : n = m := by
  obtain ⟨e, v, checked, -, resolved, rfl⟩ := first
  obtain ⟨e', w, checked', -, resolved', rfl⟩ := second
  obtain rfl := Except.ok.inj (checked.symm.trans checked')
  rw [ofOption_integer_inj (Except.ok.inj (resolved.symm.trans resolved'))]

/-- A tree over integers resolves to what comes of it bottom up, where a remainder is missing with its
quotient. All its nodes are exact, or NULL for want of an exact value that fits, if and only if none
of them is a remainder of the least integer by minus one. -/
theorem integer_trees_exact_iff {t : IntegerTree} (bound : t.Bound scope env) :
    t.ResolvesTo scope env (t.evaluate quotientRemainder env.integers) ∧
      ((∀ part ∈ t.parts, part.ResolvesTo scope env (part.evaluate exactRemainder env.integers)) ↔
        ∀ part ∈ t.parts, ¬ part.DividesLeast env.integers) := by
  refine ⟨resolvesTo_evaluate bound, ?_⟩
  rw [← evaluate_parts_eq_iff (integers_fit env) t]
  refine forall₂_congr fun part member => ⟨fun exact => ?_, fun same => ?_⟩
  · exact (resolvesTo_evaluate (bound.part member)).unique exact
  · exact same ▸ resolvesTo_evaluate (bound.part member)

end

def leastByMinusOne : IntegerTree := .binary .mod (.name "x" none) (.literal (-1) none) none

def declaredX : Scope := fun _ => some (.column .integer)

def boundToLeast : Env := fun _ => some (.integer Int64.minValue)

theorem least_remainder_null :
    leastByMinusOne.Bound declaredX boundToLeast ∧
      leastByMinusOne.ResolvesTo declaredX boundToLeast none ∧
      leastByMinusOne.evaluate exactRemainder boundToLeast.integers = some 0 ∧
      ¬ ∀ part ∈ leastByMinusOne.parts,
        part.ResolvesTo declaredX boundToLeast
          (part.evaluate exactRemainder boundToLeast.integers) := by
  have bound : leastByMinusOne.Bound declaredX boundToLeast :=
    fun _ _ => ⟨rfl, _, rfl, .inr ⟨_, rfl⟩⟩
  obtain ⟨resolved, exact_iff⟩ := integer_trees_exact_iff bound
  refine ⟨bound, resolved, by decide, fun exact => ?_⟩
  exact exact_iff.mp exact _ leastByMinusOne.mem_parts ⟨by decide, by decide⟩

end IntegerTree

end DatasetScript
