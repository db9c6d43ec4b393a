import DatasetScript.Proofs.DatasetSoundness
import DatasetScript.Proofs.JoinColumns
/-!
# Soundness of joins

A joined row is made of cells of its operands, and of NULLs in the place of cells that are missing.
So it keeps to the types of the columns that the plan fixes. Main statements: `joinStep_suits` for
one step and `Query.join_sound`.
-/

namespace DatasetScript

variable {inner : Dataset → Prop} {scope : Scope} {names : List String} {kind : JoinKind}

/-! ### Cells of a joined row -/

section

variable {cells : List Value} {columns : List Component}

theorem nulls_suit (columns : List Component) :
    CellsSuit inner (List.replicate columns.length .null) columns := by
  induction columns with
  | nil => exact .nil
  | cons c rest ih => exact .cons (suits_null c.type) ih

theorem append_suits {more : List Value} {others : List Component} (suit : CellsSuit inner cells columns)
    (suitMore : CellsSuit inner more others) : CellsSuit inner (cells ++ more) (columns ++ others) :=
  List.rel_append suit suitMore

/-- Only the types of the columns count. -/
theorem suit_iff_types : CellsSuit inner cells columns ↔
    List.Forall₂ (Value.Suits inner) cells (columns.map Component.type) :=
  List.forall₂_map_right_iff.symm

theorem suit_of_types {others : List Component} (suit : CellsSuit inner cells columns)
    (types : others.map Component.type = columns.map Component.type) :
    CellsSuit inner cells others := by
  rw [suit_iff_types] at suit ⊢
  rwa [types]

theorem filter_suits (p : Component → Bool) (suit : CellsSuit inner cells columns) :
    CellsSuit inner (((columns.zip cells).filter fun entry => p entry.1).map (·.2))
      (columns.filter p) := by
  induction suit with
  | nil => exact .nil
  | @cons v c cells columns first others ih =>
    rw [List.zip_cons_cons, List.filter_cons, List.filter_cons]
    by_cases kept : p c
    · simp only [kept, if_true, List.map_cons]
      exact .cons first ih
    · simpa [kept] using ih

end

/-- The columns that a step appends have the types of those that are not keys. -/
theorem appendColumns_types {label : String} {joined columns out : List Component}
    (h : JoinPlan.appendColumns kind names label joined columns = .ok out) :
    ∃ extra, out = joined ++ extra ∧
      extra.map Component.type = (columns.filter fun c => c.name ∉ names).map Component.type := by
  induction columns generalizing joined with
  | nil =>
    cases h
    exact ⟨[], (List.append_nil _).symm, rfl⟩
  | cons c rest ih =>
    unfold JoinPlan.appendColumns at h
    split at h
    · rename_i isKey
      obtain ⟨extra, rfl, types⟩ := ih h
      exact ⟨extra, rfl, by simpa [isKey] using types⟩
    · rename_i other
      have added (d : Component) (same : d.type = c.type)
          (h : JoinPlan.appendColumns kind names label (joined ++ [d]) rest = .ok out) :
          ∃ extra, out = joined ++ extra ∧ extra.map Component.type =
            ((c :: rest).filter fun c => c.name ∉ names).map Component.type := by
        obtain ⟨extra, rfl, types⟩ := ih h
        exact ⟨d :: extra, by simp, by simp [other, same, types]⟩
      split at h
      · split at h
        · exact added (c.rename (label ++ "#" ++ c.name)) rfl h
        · cases h
      · exact added _ rfl h

/-! ### One step -/

section

variable {s layout t : Structure} {step : JoinStep} {cells : List Value}
  {left right : List (List Value)}

theorem appended_suits (planned : StepOf names s layout step)
    (suit : CellsSuit inner cells layout.components) :
    CellsSuit inner (JoinPlan.cellsAt cells step.appended) (layout.others names) := by
  rw [planned.appended, cellsAt_others suit.length_eq, others_eq]
  exact filter_suits (fun c => decide (c.name ∉ names)) suit

/-- A row that nothing matches stands for rows with its own key cells. -/
theorem leftOf_suits (planned : StepOf names s layout step)
    (shared : ∀ c ∈ s.components, c.name ∈ names → layout.get? c.name = some c)
    (suit : CellsSuit inner cells layout.components) :
    CellsSuit inner (JoinPlan.leftOf step cells) s.components := by
  have right : names.mapM (Row.mk layout cells).layout.place = .ok step.rightKeys := planned.right
  have made := leftOf_eq planned.left right planned.width
  dsimp only at made
  rw [made]
  refine List.forall₂_map_left_iff.mpr (List.forall₂_same.mpr fun c member => ?_)
  split
  · rename_i isKey
    obtain ⟨v, held, suits⟩ := get?_of_cells (r := ⟨layout, cells⟩) suit (shared c member isKey)
    simpa [held] using suits
  · exact suits_null c.type

/-- A joined row is a row joined so far with a row of the next dataset or with NULLs, or stands for
a row that nothing matches. -/
theorem mem_joinStep {out : List Value} (member : out ∈ JoinPlan.joinStep kind step left right) :
    (∃ l ∈ left, ∃ r ∈ right, out = JoinPlan.combine step l r) ∨
      (∃ l ∈ left, out = l ++ List.replicate step.appended.length .null) ∨
      kind ≠ .cross ∧ ∃ r ∈ right, out = JoinPlan.combine step (JoinPlan.leftOf step r) r := by
  have partners {l : List Value} (inLeft : l ∈ left)
      (here : out ∈ JoinPlan.joinLeft kind step right l) :
      (∃ l ∈ left, ∃ r ∈ right, out = JoinPlan.combine step l r) ∨
        ∃ l ∈ left, out = l ++ List.replicate step.appended.length .null := by
    unfold JoinPlan.joinLeft at here
    split at here
    · split at here
      · cases here
      · exact .inr ⟨l, inLeft, List.mem_singleton.mp here⟩
    · obtain ⟨r, matched, rfl⟩ := List.mem_map.mp here
      exact .inl ⟨l, inLeft, r, (List.mem_filter.mp matched).1, rfl⟩
  unfold JoinPlan.joinStep at member
  split at member
  · obtain ⟨l, inLeft, here⟩ := List.mem_flatMap.mp member
    obtain ⟨r, inRight, rfl⟩ := List.mem_map.mp here
    exact .inl ⟨l, inLeft, r, inRight, rfl⟩
  · rename_i equi
    dsimp only at member
    split at member
    · rcases List.mem_append.mp member with joined | standing
      · obtain ⟨l, inLeft, here⟩ := List.mem_flatMap.mp joined
        exact (partners inLeft here).imp_right .inl
      · obtain ⟨r, unmatched, rfl⟩ := List.mem_map.mp standing
        exact .inr (.inr ⟨equi, r, (List.mem_filter.mp unmatched).1, rfl⟩)
    · obtain ⟨l, inLeft, here⟩ := List.mem_flatMap.mp member
      exact (partners inLeft here).imp_right .inl

theorem joinStep_suits {label : String} (planned : StepOf names s layout step)
    (appended : JoinPlan.appendColumns kind names label s.components layout.components =
      .ok t.components)
    (shared : ∀ c ∈ s.components, c.name ∈ names → layout.get? c.name = some c)
    (lefts : ∀ l ∈ left, CellsSuit inner l s.components)
    (rights : ∀ r ∈ right, CellsSuit inner r layout.components) :
    ∀ out ∈ JoinPlan.joinStep kind step left right, CellsSuit inner out t.components := by
  obtain ⟨extra, columns, types⟩ := appendColumns_types appended
  rw [columns]
  have extended {l more : List Value} (suit : CellsSuit inner l s.components)
      (suitMore : CellsSuit inner more (layout.others names)) :
      CellsSuit inner (l ++ more) (s.components ++ extra) :=
    append_suits suit (suit_of_types suitMore types)
  intro out member
  rcases mem_joinStep member with ⟨l, inLeft, r, inRight, rfl⟩ | ⟨l, inLeft, rfl⟩ | ⟨-, r, inRight, rfl⟩
  · exact extended (lefts l inLeft) (appended_suits planned (rights r inRight))
  · refine extended (lefts l inLeft) ?_
    rw [planned.appended, length_otherPlaces]
    exact nulls_suit _
  · exact extended (leftOf_suits planned shared (rights r inRight))
      (appended_suits planned (rights r inRight))

end

/-! ### All steps -/

theorem joinRows_suits {keys : List Component} {s last : Structure}
    {rest : List (String × Structure)} {steps : List JoinStep} {left : List (List Value)}
    {inputs : List (List (List Value))}
    (planned : JoinPlan.planSteps kind (keys.map Component.name) s rest = .ok (steps, last))
    (own : ∀ key ∈ keys, s.get? key.name = some key)
    (others : ∀ o ∈ rest, ∀ key ∈ keys, o.2.get? key.name = some key)
    (lefts : ∀ l ∈ left, CellsSuit inner l s.components)
    (rights : List.Forall₂ (fun o rows => ∀ cells ∈ rows, CellsSuit inner cells o.2.components)
      rest inputs) :
    ∀ out ∈ JoinPlan.joinRows kind left (steps.zip inputs), CellsSuit inner out last.components := by
  induction rights generalizing s steps left with
  | nil =>
    cases planned
    exact lefts
  | @cons next right rest inputs first later ih =>
    obtain ⟨label, layout⟩ := next
    obtain ⟨t, step, laterSteps, appended, stepOf, plannedRest, rfl⟩ := planSteps_cons planned
    have shared : ∀ c ∈ s.components, c.name ∈ keys.map Component.name →
        layout.get? c.name = some c := by
      intro c member isKey
      obtain ⟨key, inKeys, same⟩ := List.mem_map.mp isKey
      have found := Structure.get?_eq_some_iff.mp (own key inKeys)
      rw [← Structure.eq_of_mem_of_name found.1 member same]
      exact others _ List.mem_cons_self key inKeys
    obtain ⟨extra, columns, -⟩ := appendColumns_types appended
    refine ih plannedRest (fun key inKeys => ?_)
      (fun o member => others o (List.mem_cons_of_mem _ member))
      (joinStep_suits stepOf appended shared lefts first)
    have found := Structure.get?_eq_some_iff.mp (own key inKeys)
    rw [Structure.get?_eq_some_iff, columns]
    exact ⟨List.mem_append_left _ found.1, rfl⟩

variable [PatternLanguage]

theorem Query.join_sound {operands : List (String × Query)} (keys : List Component)
    (all : ∀ o ∈ operands, o.2.Sound inner scope) :
    Yields (Query.Sound inner scope) (Query.join kind operands keys) := by
  refine Yields.bind_eq fun plan planned => .ok fun env held => ?_
  refine (Safe.mapM (r := fun o rows => ∀ cells ∈ rows, CellsSuit inner cells o.2.layout.components)
    fun o member => (all o member env held).bind fun d typed => .pure fun cells here => ?_).bind
      fun inputs suit => layRows_safe ?_
  · obtain ⟨r, inRows, rfl⟩ := List.mem_map.mp here
    rw [← typed.1]
    exact (typed.2 r inRows).2
  cases suit with
  | nil => exact nofun
  | @cons first left rest inputs lefts rights =>
    obtain ⟨kinds, keyed, plannedSteps⟩ := ofOperands_cons planned
    change ∀ out ∈ JoinPlan.joinRows plan.kind left (plan.steps.zip inputs), _
    rw [kinds]
    exact joinRows_suits plannedSteps (keyed _ List.mem_cons_self)
      (fun o member => keyed o (List.mem_cons_of_mem _ member)) lefts
      (List.forall₂_map_left_iff.mpr rights)

/-! ### Checking -/

namespace Checking

theorem joinOperands_sound {taken : List String} {operands : List (Option String × Operand)}
    (all : ∀ o ∈ operands, o.2.Sound inner scope) :
    Yields (fun named => ∀ o ∈ named, o.2.Sound inner scope) (joinOperands taken operands) := by
  induction operands generalizing taken with
  | nil => exact .ok nofun
  | cons o rest ih =>
    obtain ⟨label, operand⟩ := o
    refine (query_sound (all _ List.mem_cons_self)).bind fun q hq => ?_
    split
    · exact .error _
    · refine (ih fun o member => all o (List.mem_cons_of_mem _ member)).bind fun named sound => .ok ?_
      exact List.forall_mem_cons.mpr ⟨hq, sound⟩

theorem join_sound {operands : List (Option String × Operand)} (keys : List String)
    (all : ∀ o ∈ operands, o.2.Sound inner scope) : Checks inner scope (join kind operands keys) := by
  unfold join
  split
  · exact .error _
  · refine (joinOperands_sound all).bind fun named sound => Yields.bind_eq fun components _ => ?_
    exact (Query.join_sound components sound).bind fun q hq => .ok hq

end Checking

end DatasetScript
