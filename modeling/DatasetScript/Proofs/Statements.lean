import DatasetScript.Proofs.Inlining
/-!
# Sequences of statements

A program runs its statements one after the other. Where one fails, what those before it have bound
stays and nothing else changes. Statements that neither use nor bind each other's names may change
places. Main statements: `evalWith_sequential`, `independent_commute` for two statements and
`completes_of_perm` for programs.
-/

namespace DatasetScript

section

variable [PatternLanguage]

/-! ### Evaluating a node -/

/-- The node cannot be checked against the bindings, or it can but not be resolved in them. -/
def Node.FailsIn (node : Node) (b : Bindings) (error : Error) : Prop :=
  node.check b.scope = .error error ∨
    ∃ e, node.check b.scope = .ok e ∧ e.resolve b.env = .error error

theorem evaluate_eq_error_iff {node : Node} {b : Bindings} {error : Error} :
    node.evaluate b = .error error ↔ node.FailsIn b error := by
  unfold Node.evaluate Node.FailsIn
  cases checked : node.check b.scope with
  | error e => simp
  | ok e => simp

theorem evaluate_eq_of_freeNames {node : Node} {b b' : Bindings}
    (same : ∀ name ∈ node.freeNames, b.env name = b'.env name) :
    node.evaluate b = node.evaluate b' := by
  have declared : ∀ name ∈ node.freeNames, b.scope name = b'.scope name := by
    intro name free
    unfold Bindings.scope
    rw [same name free]
  have agree := check_agree_of_freeNames node declared
  exact (agree.bind fun e e' resolved => resolved.resolve same).eq

/-- Binding a name that the node does not use is of no account. -/
theorem evaluate_insert {node : Node} {b : Bindings} {x : String} {v : Value}
    (unused : x ∉ node.freeNames) : node.evaluate (Assoc.insert b x v) = node.evaluate b := by
  refine evaluate_eq_of_freeNames fun name free => assigned_other ?_
  rintro rfl
  exact unused free

/-! ### Runs -/

namespace Program

variable {p q : Program} {b b' : Bindings} {last v : Value} {error : Error}

/-- The first part hands on its bindings and its value, or the rest is not run. -/
theorem runFrom_append (last : Value) (p q : Program) (b : Bindings) :
    runFrom last (p ++ q) b =
      match runFrom last p b with
      | (b', .ok v) => runFrom v q b'
      | (b', .error e) => (b', .error e) := by
  induction p generalizing last b with
  | nil => rfl
  | cons statement rest ih =>
    simp only [List.cons_append, runFrom]
    cases statement.expression.evaluate b with
    | error e => rfl
    | ok v => exact ih v (Assoc.insert b statement.name v)

/-- A last value from before counts for the empty program only. -/
theorem runFrom_eq_run (last : Value) (q : Program) (b : Bindings) :
    runFrom last q b = if q = [] then (b, .ok last) else q.run b := by
  cases q with
  | nil => rfl
  | cons statement rest => rfl

theorem run_append (p q : Program) (b : Bindings) :
    run (p ++ q) b =
      match p.run b with
      | (b', .ok v) => if q = [] then (b', .ok v) else q.run b'
      | (b', .error e) => (b', .error e) := by
  unfold run
  rw [runFrom_append]
  obtain ⟨b', result⟩ := runFrom .null p b
  cases result with
  | error e => rfl
  | ok v => exact runFrom_eq_run v q b'

theorem run_concat {statement : Statement} :
    run (p ++ [statement]) b = (b', .ok v) ↔
      ∃ b₁ w, p.run b = (b₁, .ok w) ∧ statement.expression.evaluate b₁ = .ok v ∧
        b' = Assoc.insert b₁ statement.name v := by
  unfold run
  rw [runFrom_append]
  obtain ⟨b₁, result⟩ := runFrom .null p b
  cases result with
  | error e => simp
  | ok w =>
    simp only [runFrom]
    cases evaluated : statement.expression.evaluate b₁ with
    | error e => simp [evaluated]
    | ok u =>
      simp only [Prod.mk.injEq, Except.ok.injEq]
      constructor
      · rintro ⟨rfl, rfl⟩
        exact ⟨b₁, w, ⟨rfl, rfl⟩, evaluated, rfl⟩
      · rintro ⟨_, _, ⟨rfl, rfl⟩, same, rfl⟩
        obtain rfl : u = v := Except.ok.inj (evaluated.symm.trans same)
        exact ⟨rfl, rfl⟩

theorem runFrom_error (failed : runFrom last p b = (b', .error error)) :
    ∃ before statement after, p = before ++ statement :: after ∧
      (∃ w, runFrom last before b = (b', .ok w)) ∧
      statement.expression.evaluate b' = .error error := by
  induction p generalizing last b with
  | nil => cases failed
  | cons statement rest ih =>
    unfold runFrom at failed
    cases evaluated : statement.expression.evaluate b with
    | error e =>
      rw [evaluated] at failed
      obtain ⟨rfl, same⟩ := Prod.mk.inj failed
      cases same
      exact ⟨[], statement, rest, rfl, ⟨last, rfl⟩, evaluated⟩
    | ok v =>
      rw [evaluated] at failed
      obtain ⟨before, next, after, rfl, ⟨w, ran⟩, stopped⟩ := ih failed
      refine ⟨statement :: before, next, after, rfl, ⟨w, ?_⟩, stopped⟩
      simp only [runFrom, evaluated]
      exact ran

/-- A program fails with the first statement that does, and leaves what those before it leave. -/
theorem run_eq_error_iff :
    p.run b = (b', .error error) ↔
      ∃ before statement after, p = before ++ statement :: after ∧
        (∃ w, run before b = (b', .ok w)) ∧ statement.expression.FailsIn b' error := by
  simp only [← evaluate_eq_error_iff]
  constructor
  · exact runFrom_error
  · rintro ⟨before, statement, after, rfl, ⟨w, ran⟩, stopped⟩
    unfold run at ran ⊢
    rw [runFrom_append, ran]
    simp only [runFrom, stopped]

theorem runFrom_frame {name : String} (unassigned : ∀ statement ∈ p, statement.name ≠ name) :
    (runFrom last p b).1.env name = b.env name := by
  induction p generalizing last b with
  | nil => rfl
  | cons statement rest ih =>
    obtain ⟨different, later⟩ := List.forall_mem_cons.mp unassigned
    unfold runFrom
    split
    · rw [ih later, assigned_other (Ne.symm different)]
    · rfl

end Program

/-! ### Calls -/

theorem serveAll_append (engine : ScriptEngine) (before after : List EngineCall) :
    engine.serveAll (before ++ after) =
      let (middle, first) := engine.serveAll before
      let (last, second) := middle.serveAll after
      (last, first ++ second) := by
  induction before generalizing engine with
  | nil => rfl
  | cons call rest ih =>
    simp only [List.cons_append, ScriptEngine.serveAll]
    rw [ih]

theorem length_serveAll (engine : ScriptEngine) (calls : List EngineCall) :
    (engine.serveAll calls).2.length = calls.length := by
  induction calls generalizing engine with
  | nil => rfl
  | cons call rest ih => simp [ScriptEngine.serveAll, ih]

/-- A run on bindings of its own leaves no trace in an engine: every other call is answered as
without it. -/
theorem serveAll_evalWith (engine : ScriptEngine) (before after : List EngineCall) (p : Program)
    (b : Bindings) :
    ∃ last first second, engine.serveAll (before ++ after) = (last, first ++ second) ∧
      first.length = before.length ∧
      engine.serveAll (before ++ .evalWith p b :: after) =
        (last, first ++ .ran (engine.evalWith p b).1 (engine.evalWith p b).2 :: second) := by
  have length := length_serveAll engine before
  rw [serveAll_append, serveAll_append]
  exact ⟨_, _, _, rfl, length, rfl⟩

/-! ### Programs -/

/-- A program does what its parts do one after the other, and its value is that of its last
statement. It fails with the first statement that cannot be checked or resolved and leaves what the
statements before it leave, in which names that they do not assign are as they were. The engine is as
before, so that its other calls are answered alike. -/
theorem evalWith_sequential (engine : ScriptEngine) :
    (∀ p q b, engine.evalWith (p ++ q) b =
      match engine.evalWith p b with
      | (b', .ok v) => if q = [] then (b', .ok v) else engine.evalWith q b'
      | (b', .error e) => (b', .error e)) ∧
    (∀ b, engine.evalWith [] b = (b, .ok .null)) ∧
    (∀ p statement b b' v, engine.evalWith (p ++ [statement]) b = (b', .ok v) ↔
      ∃ b₁ w, engine.evalWith p b = (b₁, .ok w) ∧ statement.expression.evaluate b₁ = .ok v ∧
        b' = Assoc.insert b₁ statement.name v) ∧
    (∀ p b b' error, engine.evalWith p b = (b', .error error) ↔
      ∃ before statement after, p = before ++ statement :: after ∧
        (∃ w, engine.evalWith before b = (b', .ok w)) ∧
        statement.expression.FailsIn b' error) ∧
    (∀ p b name, (∀ statement ∈ p, statement.name ≠ name) →
      (engine.evalWith p b).1.env name = b.env name) ∧
    ∀ before after p b, ∃ last first second,
      engine.serveAll (before ++ after) = (last, first ++ second) ∧
      first.length = before.length ∧
      engine.serveAll (before ++ .evalWith p b :: after) =
        (last, first ++ .ran (engine.evalWith p b).1 (engine.evalWith p b).2 :: second) := by
  refine ⟨Program.run_append, fun b => rfl, ?_, ?_, ?_, serveAll_evalWith engine⟩
  · intro p statement b b' v
    exact Program.run_concat
  · intro p b b' error
    exact Program.run_eq_error_iff
  · intro p b name unassigned
    exact Program.runFrom_frame unassigned

end

namespace Totals

/-- The statement `n := 2`. -/
def counting : Statement := ⟨"n", ⟨.literal (.integer 2), none⟩⟩

/-- The statement `total := missing`. -/
def totalling : Statement := ⟨"total", ⟨.name "missing", none⟩⟩

def bindings : Bindings := [("total", .integer 7)]

def counted : Bindings := [("n", .integer 2), ("total", .integer 7)]

def engine : ScriptEngine := ⟨.standard, []⟩

end Totals

open Totals in
/-- The statement that fails leaves its name as it was. -/
theorem failed_total_unchanged :
    (∀ statement ∈ [counting], statement.name ≠ "total") ∧
      ∃ error, engine.evalWith [counting, totalling] bindings = (counted, .error error) ∧
        counted.env "total" = bindings.env "total" := by
  have unassigned : ∀ statement ∈ [counting], statement.name ≠ "total" := by
    simp [counting]
  obtain ⟨-, -, -, fails, frame, -⟩ := evalWith_sequential engine
  obtain ⟨error, stopped⟩ : ∃ error, totalling.expression.check counted.scope = .error error :=
    ⟨_, rfl⟩
  refine ⟨unassigned, error, ?_, frame [counting] bindings "total" unassigned⟩
  exact (fails _ _ _ _).mpr ⟨[counting], totalling, [], rfl, ⟨.integer 2, rfl⟩, .inl stopped⟩

/-! ### Independent statements -/

/-- Neither statement uses or binds the name of the other. -/
def Statement.Independent (s t : Statement) : Prop :=
  s.name ≠ t.name ∧ s.name ∉ t.expression.freeNames ∧ t.name ∉ s.expression.freeNames

theorem Statement.Independent.symm {s t : Statement} (h : s.Independent t) : t.Independent s :=
  ⟨Ne.symm h.1, h.2.2, h.2.1⟩

section

variable [PatternLanguage]

namespace Program

/-- The program succeeds and leaves the second bindings. -/
def Completes (p : Program) (b b' : Bindings) : Prop := ∃ v, p.run b = (b', .ok v)

variable {b b' : Bindings} {s t : Statement}

theorem completes_cons {p : Program} :
    Completes (s :: p) b b' ↔
      ∃ v, s.expression.evaluate b = .ok v ∧ p.Completes (Assoc.insert b s.name v) b' := by
  unfold Completes run
  simp only [runFrom]
  cases s.expression.evaluate b with
  | error e => simp
  | ok v =>
    simp only [Except.ok.injEq, exists_eq_left']
    cases p with
    | nil => simp [runFrom]
    | cons next rest => rfl

/-- Independent statements at the front change places. -/
theorem completes_swap {p : Program} (independent : s.Independent t) :
    Completes (s :: t :: p) b b' → Completes (t :: s :: p) b b' := by
  obtain ⟨different, unusedFirst, unusedSecond⟩ := independent
  simp only [completes_cons]
  rintro ⟨v, first, w, second, rest⟩
  rw [evaluate_insert unusedFirst] at second
  rw [Assoc.insert_comm b v w different] at rest
  exact ⟨w, second, v, by rw [evaluate_insert unusedSecond]; exact first, rest⟩

end Program

/-- A program of independent statements succeeds in every order of these, with one outcome. -/
theorem completes_of_perm {p q : Program} {b b' : Bindings} (perm : p.Perm q)
    (independent : p.Pairwise Statement.Independent) (completes : p.Completes b b') :
    q.Completes b b' := by
  induction perm generalizing b with
  | nil => exact completes
  | cons s _ ih =>
    obtain ⟨v, first, rest⟩ := Program.completes_cons.mp completes
    exact Program.completes_cons.mpr ⟨v, first, ih independent.of_cons rest⟩
  | swap s t p =>
    have apart := (List.pairwise_cons.mp independent).1 s List.mem_cons_self
    exact Program.completes_swap apart completes
  | trans first _ ih ih' =>
    exact ih' (first.pairwise independent fun apart => apart.symm) (ih independent completes)

/-- Two independent statements succeed in one order exactly if they do in the other, and end in the
same bindings. -/
theorem independent_commute (engine : ScriptEngine) {s t : Statement}
    (independent : s.Independent t) (b b' : Bindings) :
    (∃ v, engine.evalWith [s, t] b = (b', .ok v)) ↔
      ∃ v, engine.evalWith [t, s] b = (b', .ok v) :=
  ⟨Program.completes_swap independent, Program.completes_swap independent.symm⟩

end

namespace Shadowing

/-- The statement `x := readings[keep x]`. -/
def keeping : Statement := ⟨"x", kept⟩

/-- The statement `y := readings[calc y := x]`. -/
def calculating : Statement := ⟨"y", calculated⟩

end Shadowing

open Shadowing in
/-- The names in the expressions of clauses stand for columns. -/
theorem columns_commute :
    keeping.Independent calculating ∧
      ∃ b, (∃ v, engine.evalWith [keeping, calculating] alone = (b, .ok v)) ∧
        ∃ v, engine.evalWith [calculating, keeping] alone = (b, .ok v) := by
  have independent : keeping.Independent calculating := by
    refine ⟨?_, ?_, ?_⟩ <;>
      simp [keeping, calculating, kept, calculated, Node.freeNames, Form.freeNames]
  obtain ⟨b, v, ran⟩ : ∃ b v, engine.evalWith [keeping, calculating] alone = (b, .ok v) :=
    ⟨_, _, rfl⟩
  exact ⟨independent, b, ⟨v, ran⟩, (independent_commute engine independent alone b).mp ⟨v, ran⟩⟩

end DatasetScript
