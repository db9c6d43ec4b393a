import DatasetScript.Proofs.Unplaced
/-!
# Alike errors

Two runs that both fail may be asked for one error, for errors with one cause, for errors of one kind,
or for nothing more. A likeness says what is asked for, and which positions of nodes count as alike so
that attaching them keeps errors alike. Errors raised without a position are alike as soon as their
causes are. Main statements: `Likeness.errors_at`, for errors about
nodes, and `Likeness.errors_self`, for errors about none.
-/

namespace DatasetScript

inductive ErrorKind where
  | typeMismatch
  | branchTypeMismatch
  | structureMismatch
  | unknownColumn
  | unsupportedOperator
  | resolutionFailure
  | argumentCount
  deriving DecidableEq

def Cause.kind : Cause → ErrorKind
  | typeMismatch _ _ _ => .typeMismatch
  | branchTypeMismatch _ _ _ => .branchTypeMismatch
  | structureMismatch _ => .structureMismatch
  | unknownColumn _ => .unknownColumn
  | unsupportedOperator _ => .unsupportedOperator
  | resolutionFailure _ => .resolutionFailure
  | argumentCount _ _ _ => .argumentCount

structure Likeness where
  errors : Error → Error → Prop
  positions : Option Position → Option Position → Prop
  /-- whether causes quote the same texts -/
  texts : Prop
  located {e e' : Error} {p p' : Option Position} :
    errors e e' → positions p p' → errors (e.locate p) (e'.locate p')
  unplaced {c c' : Cause} : c.kind = c'.kind → (texts → c = c') → errors ⟨c, none⟩ ⟨c', none⟩

namespace Likeness

/-- One error. -/
def exact : Likeness where
  errors e e' := e = e'
  positions p p' := p = p'
  texts := True
  located same places := same ▸ places ▸ rfl
  unplaced _ same := congrArg (Error.mk · none) (same trivial)

/-- Any two errors. -/
def failure : Likeness where
  errors _ _ := True
  positions _ _ := True
  texts := False
  located _ _ := trivial
  unplaced _ _ := trivial

/-- Errors with one cause. -/
def cause : Likeness where
  errors e e' := e.cause = e'.cause
  positions _ _ := True
  texts := True
  located same _ := same
  unplaced _ same := same trivial

/-- Errors of one kind. -/
def kind : Likeness where
  errors e e' := e.cause.kind = e'.cause.kind
  positions _ _ := True
  texts := False
  located same _ := same
  unplaced same _ := same

/-- Errors of one kind at one position. -/
def placedKind : Likeness where
  errors e e' := e.cause.kind = e'.cause.kind ∧ e.position = e'.position
  positions p p' := p = p'
  texts := False
  located same places := ⟨same.1, by rw [Error.locate, Error.locate, same.2, places]⟩
  unplaced same _ := ⟨same, rfl⟩

/-- Every error is like itself, and so is every position. -/
structure Reflexive (like : Likeness) : Prop where
  errors (e : Error) : like.errors e e
  positions (p : Option Position) : like.positions p p

theorem exact_reflexive : exact.Reflexive := ⟨fun _ => rfl, fun _ => rfl⟩

theorem failure_reflexive : failure.Reflexive := ⟨fun _ => trivial, fun _ => trivial⟩

theorem cause_reflexive : cause.Reflexive := ⟨fun _ => rfl, fun _ => trivial⟩

theorem kind_reflexive : kind.Reflexive := ⟨fun _ => rfl, fun _ => trivial⟩

theorem placedKind_reflexive : placedKind.Reflexive := ⟨fun _ => ⟨rfl, rfl⟩, fun _ => rfl⟩

/-- Neither positions nor texts matter. -/
structure Loose (like : Likeness) : Prop where
  positions (p p' : Option Position) : like.positions p p'
  texts : ¬ like.texts

theorem failure_loose : failure.Loose := ⟨fun _ _ => trivial, id⟩

theorem kind_loose : kind.Loose := ⟨fun _ _ => trivial, id⟩

/-- Errors about the one node are like errors about the other. -/
structure Nodes (like : Likeness) (node node' : Node) : Prop where
  positions : like.positions node.position node'.position
  texts : like.texts → node.text = node'.text

theorem Reflexive.nodes {like : Likeness} (h : like.Reflexive) (node : Node) :
    like.Nodes node node := ⟨h.positions _, fun _ => rfl⟩

theorem Loose.nodes {like : Likeness} (h : like.Loose) (node node' : Node) :
    like.Nodes node node' := ⟨h.positions _ _, fun strict => (h.texts strict).elim⟩

variable {like : Likeness}

theorem errors_at {c c' : Cause} {p p' : Option Position} (places : like.positions p p')
    (kind : c.kind = c'.kind) (same : like.texts → c = c') : like.errors ⟨c, p⟩ ⟨c', p'⟩ :=
  like.located (like.unplaced kind same) places

theorem errors_self {e : Error} (unplaced : e.position = none) : like.errors e e := by
  obtain ⟨cause, position⟩ := e
  obtain rfl : position = none := unplaced
  exact like.unplaced rfl fun _ => rfl

end Likeness

end DatasetScript
