import DatasetScript.Proofs.Rows
import DatasetScript.Proofs.Safety
/-!
# Well-typed datasets and sound expressions

A well-typed dataset has rows in its own column order with cells that fit their columns. An
expression is sound if it is safe in every environment that holds what the scope declares. Main
statements: `matches_row` says that the rows of a well-typed dataset are such environments, and
`Expr.Sound.resolve` what sound expressions resolve to.
-/

namespace DatasetScript

/-! ### Well-typed values -/

section

variable (inner : Dataset → Prop)

/-- The value may stand in a column of the type. A dataset in a cell has the property `inner`. -/
def Value.Suits (v : Value) (t : DataType) : Prop := v.fits t ∧ ∀ d, v = .dataset d → inner d

/-- The cells suit the columns, one by one. -/
def CellsSuit (cells : List Value) (columns : List Component) : Prop :=
  List.Forall₂ (fun v c => v.Suits inner c.type) cells columns

/-- The rows are laid out like the dataset and hold NULL or values that their columns can take. -/
def Dataset.WellTyped (d : Dataset) : Prop :=
  ∀ r ∈ d.rows, r.layout = d.layout ∧ CellsSuit inner r.cells d.layout.components

def Value.WellTyped : Value → Prop
  | .dataset d => d.WellTyped inner
  | _ => True

def Bindings.WellTyped (b : Bindings) : Prop := ∀ name v, b.env name = some v → v.WellTyped inner

/-- The value is NULL, or of the static type exactly. -/
def Value.HasType (v : Value) : Option DataType → Prop
  | none => v = .null
  | some (.scalar t) => v = .null ∨ v.type? = some (.scalar t)
  | some .dataset => ∃ d, v = .dataset d ∧ d.WellTyped inner

/-! ### Environments and expressions -/

/-- What a name holds agrees with its declaration. -/
def Declaration.Describes : Declaration → Option Value → Prop
  | .column (.scalar t), some v => v.fits (.scalar t)
  | .column (.scalar _), none => False
  | .dataset layout, some (.dataset d) => d.layout = layout ∧ d.WellTyped inner
  | .dataset _, _ => False
  | _, _ => True

def Env.Matches (env : Env) (scope : Scope) : Prop :=
  ∀ name declaration, scope name = some declaration → declaration.Describes inner (env name)

variable (scope : Scope)

variable [PatternLanguage]

def Formula.Sound {t : ScalarType} (f : Formula t) : Prop :=
  ∀ env : Env, env.Matches inner scope → Safe (fun _ => True) (f env)

/-- The query gives well-typed datasets of its structure. -/
def Query.Sound (q : Query) : Prop :=
  ∀ env : Env, env.Matches inner scope →
    Safe (fun d => d.layout = q.layout ∧ d.WellTyped inner) (q.run env)

def Expr.Sound : Expr → Prop
  | .null => True
  | .scalar _ f => f.Sound inner scope
  | .query q => q.Sound inner scope

/-- Checking the operand gives sound expressions. -/
def Operand.Sound (o : Operand) : Prop := Yields (Expr.Sound inner scope) o.expr

end

variable {inner : Dataset → Prop} {scope : Scope} {env : Env}

/-! ### Values that fit -/

theorem suits_null (t : DataType) : Value.Suits inner .null t := ⟨rfl, nofun⟩

theorem widensTo_self (t : DataType) : t.widensTo t := by simp [DataType.widensTo]

theorem suits_of_hasType {v : Value} {t : ScalarType} (h : v.HasType inner (some (.scalar t))) :
    v.Suits inner (.scalar t) := by
  rcases h with rfl | typed
  · exact suits_null _
  · refine ⟨by simp [Value.fits, typed, widensTo_self], ?_⟩
    rintro d rfl
    cases typed

/-- A value that fits a scalar type has a payload of the type. -/
theorem payload_of_fits {v : Value} {t : ScalarType} (h : v.fits (.scalar t)) :
    ∃ payload, t.payload v = .ok payload := by
  cases v <;> cases t <;> simp [Value.fits, Value.type?, DataType.widensTo] at h <;> exact ⟨_, rfl⟩

theorem ofOption_hasType (t : ScalarType) (payload : Option t.Carrier) :
    (Value.ofOption t payload).HasType inner (some (.scalar t)) := by
  cases payload with
  | none => exact .inl rfl
  | some a => cases t <;> exact .inr rfl

/-- A value has the only type that it may have. -/
theorem hasType_of_only {v : Value} {t : ScalarType} {given : Option DataType}
    (h : v.HasType inner given) (only : ∀ u ∈ given, u = .scalar t) :
    v.HasType inner (some (.scalar t)) := by
  cases given with
  | none => exact .inl h
  | some u =>
    rw [only u rfl] at h
    exact h

/-- A value of a scalar type is cast to the type as it is. -/
theorem cast_of_hasType {v : Value} {t : ScalarType} (h : v.HasType inner (some (.scalar t))) :
    v.cast (.scalar t) = .ok v := by
  rcases h with rfl | typed
  · rfl
  · cases v <;> cases t <;> cases typed <;> rfl

/-- A value that suits a column is cast to the type of the column. -/
theorem cast_of_suits {v : Value} {t : DataType} (h : v.Suits inner t) :
    ∃ w, v.cast t = .ok w ∧ w.Suits inner t := by
  obtain ⟨fits, nested⟩ := h
  cases v with
  | null => exact ⟨.null, rfl, suits_null t⟩
  | dataset d =>
    cases t with
    | dataset => exact ⟨.dataset d, rfl, rfl, nested⟩
    | scalar t => simp [Value.fits, Value.type?, DataType.widensTo] at fits
  | _ =>
    rcases t with ⟨_ | _ | _ | _⟩ | _ <;>
      simp [Value.fits, Value.type?, DataType.widensTo] at fits <;> exact ⟨_, rfl, rfl, nofun⟩

/-! ### Environments of rows -/

/-- The names of a structure stand for the cells of its rows. -/
theorem matches_row {s : Structure} {r : Row} (own : r.layout = s)
    (suit : CellsSuit inner r.cells s.components) : r.env.Matches inner s.scope := by
  subst own
  intro name declaration declared
  unfold Structure.scope Structure.columnType? at declared
  rw [Option.map_map] at declared
  obtain ⟨c, found, rfl⟩ := Option.map_eq_some_iff.mp declared
  obtain ⟨v, held, suits⟩ := get?_of_cells suit found
  change Declaration.Describes inner (.column c.type) (r.get? name)
  rw [held]
  cases typed : c.type with
  | dataset => trivial
  | scalar t =>
    rw [typed] at suits
    exact suits.1

/-! ### Resolving sound expressions -/

section

variable [PatternLanguage]

theorem Expr.Sound.resolve {e : Expr} (sound : e.Sound inner scope) (held : env.Matches inner scope) :
    Safe (fun v => v.HasType inner e.type?) (e.resolve env) := by
  cases e with
  | null => exact Safe.pure rfl
  | scalar t f => exact (sound env held).bind fun payload _ => .pure (ofOption_hasType t payload)
  | query q => exact (sound env held).bind fun d typed => .pure ⟨d, rfl, typed.2⟩

theorem Query.Sound.locate {q : Query} (sound : q.Sound inner scope) (p : Option Position) :
    (q.locate p).Sound inner scope := fun env held => (sound env held).locate

theorem Expr.Sound.locate {e : Expr} (sound : e.Sound inner scope) (p : Option Position) :
    (e.locate p).Sound inner scope := by
  cases e with
  | null => trivial
  | scalar t f => exact fun env held => (sound env held).locate
  | query q => exact Query.Sound.locate sound p

end

/-! ### Bindings -/

theorem Bindings.WellTyped.matches {b : Bindings} (typed : b.WellTyped inner) :
    b.env.Matches inner b.scope := by
  intro name declaration declared
  obtain ⟨v, found, rfl⟩ := Option.map_eq_some_iff.mp declared
  rw [found]
  cases v with
  | dataset d => exact ⟨rfl, typed name (.dataset d) found⟩
  | null => trivial
  | _ => exact widensTo_self _

theorem Bindings.WellTyped.insert {b : Bindings} {v : Value} (typed : b.WellTyped inner)
    (name : String) (fresh : v.WellTyped inner) : Bindings.WellTyped inner (Assoc.insert b name v) := by
  intro other w found
  unfold Bindings.env at found
  rw [Assoc.find?_insert] at found
  split at found
  · cases found
    exact fresh
  · exact typed other w found

theorem wellTyped_of_hasType {v : Value} {t : Option DataType} (h : v.HasType inner t) :
    v.WellTyped inner := by
  rcases t with _ | _ | _
  · cases h
    trivial
  · cases v with
    | dataset d => rcases h with h | h <;> cases h
    | _ => trivial
  · obtain ⟨d, rfl, typed⟩ := h
    exact typed

end DatasetScript
