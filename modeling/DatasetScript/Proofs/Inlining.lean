import DatasetScript.Proofs.FreeNames
import DatasetScript.Proofs.ScriptSoundness
/-!
# Inlining assignments

A name that was assigned an expression may be replaced by the expression, since the value bound to it
is declared with the type and the column order that checking finds for the expression. Main
statement: `inline_assignment`.
-/

namespace DatasetScript

/-- Puts a node in the place of a free name. -/
def Node.inline (node : Node) (name : String) (replacement : Node) : Node :=
  node.substitute fun other => if other = name then some replacement else none

/-- Both runs fail, or both give the name one value. -/
def SameBinding (name : String) :
    Bindings × Except Error Value → Bindings × Except Error Value → Prop
  | (b, .ok _), (b', .ok _) => ∃ v, b.env name = some v ∧ b'.env name = some v
  | (_, .error _), (_, .error _) => True
  | _, _ => False

/-! ### The column order of a resolved dataset -/

theorem conform_declared {declared : Structure} {name : String} {d c : Dataset}
    (h : d.conform declared name = .ok c) : c.layout = declared := by
  unfold Dataset.conform at h
  split at h
  · cases h
  · rename_i compatible
    split at h
    · rename_i names
      rw [← Except.ok.inj h]
      exact Structure.eq_of_isCompatibleWith (by simpa using compatible) names
    · exact (ofEntries_laidOut h).1

theorem boundDataset_declared {name : String} {declared : Structure} {env : Env} {d : Dataset}
    (h : Checking.boundDataset name declared env = .ok d) : d.layout = declared := by
  unfold Checking.boundDataset at h
  split at h
  · exact conform_declared h
  · cases h
  · cases h

/-- Without choices between datasets, a resolved dataset has the structure that checking finds. -/
theorem Node.Resolves.layout_eq [PatternLanguage] {scope : Scope} {env : Env} {node : Node}
    {s : Structure} {d : Dataset} (h : node.Resolves scope env s d) :
    node.SingleChoices scope → d.layout = s := by
  induction h with
  | bound _ _ held => exact fun _ => boundDataset_declared held
  | laid _ _ _ laid => exact fun _ => (layRows_laidOut laid).1
  | parenthesis _ ih => exact ih
  | filtered => exact fun _ => rfl
  | first _ thenLayout elseLayout | second _ thenLayout elseLayout =>
    intro single
    obtain ⟨t, thenChecked⟩ := check_of_layout? thenLayout
    obtain ⟨e, elseChecked⟩ := check_of_layout? elseLayout
    exact (single.2 t e thenChecked elseChecked).elim

/-! ### Assigned names -/

section

variable {b : Bindings} {x : String} {v : Value}

/-- The bindings after an assignment, and those before it. -/
def Assigned (b : Bindings) (x : String) (v : Value) (env env' : Env) : Prop :=
  env = Bindings.env (Assoc.insert b x v) ∧ env' = b.env

theorem assigned_self : Bindings.env (Assoc.insert b x v) x = some v := by
  simp [Bindings.env, Assoc.find?_insert]

theorem assigned_other {name : String} (other : name ≠ x) :
    Bindings.env (Assoc.insert b x v) name = b.env name := by
  simp [Bindings.env, Assoc.find?_insert, Ne.symm other]

theorem payload_scalar (t : ScalarType) (c : t.Carrier) :
    t.payload (Value.scalar t c) = .ok (some c) := by
  cases t <;> rfl

theorem ofValue_scalar (t : ScalarType) (c : t.Carrier) :
    Declaration.ofValue (Value.scalar t c) = .column (.scalar t) := by
  cases t <;> rfl

/-- The variable agrees with the expression that it was assigned. -/
theorem assigned_agree {e : Expr} (resolved : e.resolve b.env = .ok v) (given : v ≠ .null)
    (own : ∀ q d, e = .query q → v = .dataset d → d.layout = q.layout) :
    ChecksAgree .failure (Assigned b x v)
      (Checking.variableNamed (Bindings.scope (Assoc.insert b x v)) x) (.ok e) := by
  have declared : Bindings.scope (Assoc.insert b x v) x = some (.ofValue v) := by
    simp [Bindings.scope, assigned_self]
  cases e with
  | null => exact (given (Except.ok.inj resolved).symm).elim
  | scalar t f =>
    obtain ⟨payload, value, made⟩ := bind_ok resolved
    obtain rfl := pure_ok made
    cases payload with
    | none => exact (given rfl).elim
    | some c =>
      have column : Bindings.scope (Assoc.insert b x (Value.scalar t c)) x =
          some (.column (.scalar t)) := declared.trans (congrArg some (ofValue_scalar t c))
      have bound : Checking.boundValue x (Bindings.env (Assoc.insert b x (Value.scalar t c))) =
          .ok (Value.scalar t c) := by
        simp [Checking.boundValue, assigned_self]
      unfold Checking.variableNamed
      rw [show Value.ofOption t (some c) = Value.scalar t c from rfl, column]
      refine Expr.Agree.scalar ?_
      rintro _ _ ⟨rfl, rfl⟩
      rw [value]
      change Agree .failure Eq (Checking.boundValue x
        (Bindings.env (Assoc.insert b x (Value.scalar t c))) >>= t.payload) _
      rw [bound, ok_bind, payload_scalar]
      exact rfl
  | query q =>
    obtain ⟨d, run, made⟩ := bind_ok resolved
    obtain rfl := pure_ok made
    have layout := own q d rfl rfl
    unfold Checking.variableNamed
    rw [declared]
    refine Expr.Agree.query ⟨layout, ?_⟩
    rintro _ _ ⟨rfl, rfl⟩
    rw [run]
    change Agree .failure Eq (Checking.boundDataset x d.layout _) _
    rw [boundDataset_own assigned_self]
    exact rfl

/-- What is said of names after the assignment holds before it, with the expression in the place of
the name. -/
theorem inline_agree [PatternLanguage] {e f : Node} (single : e.SingleChoices b.scope)
    (evaluated : e.evaluate b = .ok v) (given : v ≠ .null)
    (aliased : ∀ operand ∈ f.unnamedOperands, x ∉ operand.freeNames) :
    ChecksAgree .failure (Assigned b x v) (f.check (Bindings.scope (Assoc.insert b x v)))
      ((f.inline x e).check b.scope) := by
  have blends : Substitution.Blends (fun other => if other = x then some e else none) .failure :=
    ⟨Likeness.failure_reflexive, fun _ => Likeness.failure_loose.nodes _ _⟩
  refine f.substitute_agree blends (fun name _ position => ?_) fun operand member name free => ?_
  · by_cases here : name = x
    · subst here
      have replaced : Node.substitute (fun other => if other = name then some e else none)
          ⟨.name name, position⟩ = e := by
        simp [Node.substitute, Form.replacement?]
      obtain ⟨expression, checked, resolved⟩ := bind_ok evaluated
      rw [replaced, checked]
      refine form_agree_left Likeness.failure_loose (.name name) position (assigned_agree resolved given ?_)
      rintro q d rfl rfl
      obtain ⟨d', run, made⟩ := bind_ok resolved
      cases pure_ok made
      exact (run_resolves e checked run).layout_eq single
    · have kept : Node.substitute (fun other => if other = x then some e else none)
          ⟨.name name, position⟩ = ⟨.name name, position⟩ :=
        Node.substitute_eq_self _ fun other free => by
          obtain rfl := List.mem_singleton.mp free
          simp [here]
      rw [kept]
      refine form_agree (.name name) (.name name) trivial (variableNamed_agree ?_ ?_)
      · simp [Bindings.scope, assigned_other here]
      · rintro _ _ ⟨rfl, rfl⟩
        exact assigned_other here
  · have other : name ≠ x := fun same => aliased operand member (same ▸ free)
    simp [other]

theorem evaluate_agree [PatternLanguage] {e f : Node} (single : e.SingleChoices b.scope)
    (evaluated : e.evaluate b = .ok v) (given : v ≠ .null)
    (aliased : ∀ operand ∈ f.unnamedOperands, x ∉ operand.freeNames) :
    Agree .failure Eq (f.evaluate (Assoc.insert b x v)) ((f.inline x e).evaluate b) :=
  (inline_agree single evaluated given aliased).bind fun _ _ agree => agree.resolve ⟨rfl, rfl⟩

end

/-- Assigning an expression to a name and then using the name does what using the expression does,
if the name is no part of a join operand that goes by its text. -/
theorem inline_assignment [PatternLanguage] (engine : ScriptEngine) {b : Bindings} {x y : String}
    {e f : Node} {v : Value} (single : e.SingleChoices b.scope)
    (evaluated : e.evaluate b = .ok v) (given : v ≠ .null)
    (aliased : ∀ operand ∈ f.unnamedOperands, x ∉ operand.freeNames) :
    SameBinding y (engine.evalWith [⟨x, e⟩, ⟨y, f⟩] b) (engine.evalWith [⟨y, f.inline x e⟩] b) := by
  have agree := evaluate_agree single evaluated given aliased
  unfold ScriptEngine.evalWith Program.run
  simp only [Program.runFrom, evaluated]
  cases first : f.evaluate (Assoc.insert b x v) with
  | error error =>
    cases second : (f.inline x e).evaluate b with
    | error error' => trivial
    | ok w' =>
      rw [first, second] at agree
      exact agree.elim
  | ok w =>
    cases second : (f.inline x e).evaluate b with
    | error error' =>
      rw [first, second] at agree
      exact agree.elim
    | ok w' =>
      rw [first, second] at agree
      obtain rfl : w = w' := agree
      exact ⟨w, assigned_self, assigned_self⟩

namespace Shadowing

/-- The expression `readings[keep x]`. -/
def kept : Node := ⟨.clause ⟨.name "readings", none⟩ (.keep ["x"]), none⟩

/-- A dataset without the rows in which its column `x` is not five. -/
def fives (dataset : Node) : Node :=
  ⟨.clause dataset (.filter
    ⟨.binary (.comparison .eq) ⟨.name "x", none⟩ ⟨.literal (.integer 5), none⟩, none⟩), none⟩

theorem column_distinct : (List.map Component.name [⟨"x", .integer, .measure⟩]).Nodup :=
  List.nodup_singleton _

/-- The values of the column `x`. -/
def column : Structure := ⟨[⟨"x", .integer, .measure⟩], column_distinct⟩

def keptValue : Value := .dataset ⟨column, [⟨column, [.integer 5]⟩]⟩

def engine : ScriptEngine := ⟨.standard, []⟩

end Shadowing

open Shadowing in
/-- The column of the name stays where the name is replaced. -/
theorem inline_beside_column :
    kept.evaluate alone = .ok keptValue ∧ (fives ⟨.name "x", none⟩).inline "x" kept = fives kept ∧
      SameBinding "y" (engine.evalWith [⟨"x", kept⟩, ⟨"y", fives ⟨.name "x", none⟩⟩] alone)
        (engine.evalWith [⟨"y", (fives ⟨.name "x", none⟩).inline "x" kept⟩] alone) := by
  have single : kept.SingleChoices alone.scope := by
    simp [kept, Node.SingleChoices, Form.SingleChoices, Clause.SingleChoices]
  have evaluated : kept.evaluate alone = .ok keptValue := rfl
  have given : keptValue ≠ .null := Value.noConfusion
  have aliased : ∀ operand ∈ (fives ⟨.name "x", none⟩).unnamedOperands, "x" ∉ operand.freeNames :=
    fun _ member => (List.not_mem_nil member).elim
  exact ⟨evaluated, rfl, inline_assignment engine single evaluated given aliased⟩

end DatasetScript
