import DatasetScript.Proofs.IntegerSums
import DatasetScript.Proofs.ValueOrder
import Mathlib.Data.List.ReduceOption
/-!
# Counts and extremes

How many values other than NULL there are, and the least and the greatest of them, do not depend on
the order of the rows, nor on rows where the operand is NULL. Main statement: `counts_and_extremes`.
-/

namespace DatasetScript

/-! ### The least item of a list -/

section

variable {α : Type} (order : α → α → Ordering)

/-- The earlier of two items, the first one if they are level. -/
def lesser (best b : α) : α := if order b best = .lt then b else best

/-- Whether the item is in the list and no other comes before it. -/
def IsLeastOf (items : List α) (a : α) : Prop := a ∈ items ∧ ∀ b ∈ items, (order a b).isLE

theorem lesser_isLeast [Std.TransCmp order] (best b : α) :
    IsLeastOf order [best, b] (lesser order best b) := by
  unfold lesser
  split
  · rename_i less
    refine ⟨by simp, ?_⟩
    simp [less, Std.ReflCmp.isLE_rfl]
  · rename_i more
    refine ⟨by simp, ?_⟩
    have level : (order best b).isLE := by
      rw [Ordering.isLE_iff_ne_gt, Std.OrientedCmp.gt_iff_lt]
      exact more
    simp [level, Std.ReflCmp.isLE_rfl]

theorem foldl_isLeast [Std.TransCmp order] (first : α) (rest : List α) :
    IsLeastOf order (first :: rest) (rest.foldl (lesser order) first) := by
  induction rest generalizing first with
  | nil => exact ⟨List.mem_cons_self, by simp [Std.ReflCmp.isLE_rfl]⟩
  | cons b rest ih =>
    obtain ⟨member, below⟩ := ih (lesser order first b)
    obtain ⟨chosen, either⟩ := lesser_isLeast order first b
    rw [List.foldl_cons]
    refine ⟨?_, fun a given => ?_⟩
    · rcases List.mem_cons.mp member with same | later
      · rw [same]
        exact List.mem_append_left rest chosen
      · exact List.mem_append_right [first, b] later
    · rcases List.mem_append.mp (show a ∈ [first, b] ++ rest from given) with early | late
      · exact Std.TransCmp.isLE_trans (below _ List.mem_cons_self) (either a early)
      · exact below a (List.mem_cons_of_mem _ late)

variable {order}

theorem IsLeastOf.unique [Std.TransCmp order] [Std.LawfulEqCmp order] {items others : List α}
    {a b : α} (perm : items.Perm others) (first : IsLeastOf order items a)
    (second : IsLeastOf order others b) : a = b :=
  Std.LawfulEqCmp.eq_of_compare
    (Std.OrientedCmp.isLE_antisymm (first.2 b (perm.mem_iff.mpr second.1))
      (second.2 a (perm.mem_iff.mp first.1)))

end

/-! ### Extreme values -/

section

variable {t : ScalarType} {dir : Ordering}

/-- Values of a type other than Number stand in line, upwards or downwards. -/
theorem exists_line (exact : t ≠ .number) (way : dir = .lt ∨ dir = .gt) :
    ∃ line : t.Carrier → t.Carrier → Ordering, Std.TransCmp line ∧ Std.LawfulEqCmp line ∧
      ∀ a b, (Value.scalar t a).compare? (.scalar t b) = some dir ↔ line a b = .lt := by
  obtain ⟨order, transitive, lawful, compared⟩ := exists_order exact
  rcases way with rfl | rfl
  · exact ⟨order, transitive, lawful, fun a b => by rw [compared, Option.some_inj]⟩
  · refine ⟨fun a b => order b a, inferInstance, ⟨fun level => ?_⟩, fun a b => ?_⟩
    · exact (Std.LawfulEqCmp.eq_of_compare level).symm
    · rw [compared, Option.some_inj, Std.OrientedCmp.gt_iff_lt]

theorem extreme_scalars {line : t.Carrier → t.Carrier → Ordering}
    (stand : ∀ a b, (Value.scalar t a).compare? (.scalar t b) = some dir ↔ line a b = .lt)
    (a : t.Carrier) (rest : List t.Carrier) :
    Aggregation.extreme dir ((a :: rest).map (.scalar t)) =
      .scalar t (rest.foldl (lesser line) a) := by
  rw [List.map_cons, Aggregation.extreme, List.foldl_map]
  refine List.foldl_hom _ fun best b => ?_
  simp only [stand, lesser]
  split <;> rfl

/-- The value is one of the list that no other comes before, upwards or downwards, if there are any
but NULL. -/
structure Value.IsExtreme (dir : Ordering) (values : List Value) (v : Value) : Prop where
  null_iff : v = .null ↔ ∀ w ∈ values, w = .null
  member : v ≠ .null → v ∈ values
  first : v ≠ .null → ∀ w ∈ values, w ≠ .null → v.compare? w = some dir ∨ v.compare? w = some .eq

/-- The values other than NULL. -/
def present (values : List Value) : List Value := values.filter (!·.isNull)

theorem mem_present {values : List Value} {v : Value} :
    v ∈ present values ↔ v ∈ values ∧ v ≠ .null := by
  rw [present, List.mem_filter]
  refine and_congr_right fun _ => ?_
  cases v <;> simp [Value.isNull]

theorem present_payloads (payloads : List (Option t.Carrier)) :
    present (payloads.map (.ofOption t)) = payloads.reduceOption.map (.scalar t) := by
  induction payloads with
  | nil => rfl
  | cons payload rest ih =>
    cases payload with
    | none => exact ih
    | some a =>
      have kept : (!(Value.scalar t a).isNull) = true := by cases t <;> rfl
      rw [List.reduceOption_cons_of_some, List.map_cons, List.map_cons, ← ih]
      exact List.filter_cons_of_pos kept

theorem extreme_isExtreme (exact : t ≠ .number) (way : dir = .lt ∨ dir = .gt)
    (payloads : List (Option t.Carrier)) :
    (Aggregation.extreme dir (present (payloads.map (.ofOption t)))).IsExtreme dir
      (payloads.map (.ofOption t)) := by
  obtain ⟨line, _, _, stand⟩ := exists_line exact way
  have found {v : Value} : v ∈ payloads.map (Value.ofOption t) ∧ v ≠ .null ↔
      v ∈ payloads.reduceOption.map (Value.scalar t) := by
    rw [← mem_present, present_payloads]
  rw [present_payloads]
  cases given : payloads.reduceOption with
  | nil =>
    rw [given] at found
    refine ⟨iff_of_true rfl fun w member => ?_, fun more => (more rfl).elim,
      fun more => (more rfl).elim⟩
    by_contra other
    cases found.mp ⟨member, other⟩
  | cons a rest =>
    rw [given] at found
    obtain ⟨member, below⟩ := foldl_isLeast line a rest
    rw [extreme_scalars stand]
    have here := found.mpr (List.mem_map_of_mem member)
    refine ⟨iff_of_false here.2 fun blank => here.2 (blank _ here.1), fun _ => here.1,
      fun _ w among other => ?_⟩
    obtain ⟨b, late, rfl⟩ := List.mem_map.mp (found.mp ⟨among, other⟩)
    have before := below b late
    cases compared : line (rest.foldl (lesser line) a) b with
    | lt => exact .inl ((stand _ _).mpr compared)
    | eq =>
      rw [Std.LawfulEqCmp.eq_of_compare compared]
      exact .inr ((compare_eq_iff exact b b).mpr rfl)
    | gt =>
      rw [compared] at before
      cases before

/-- In whatever order the values come, the extreme one is the same. -/
theorem extreme_perm (exact : t ≠ .number) (way : dir = .lt ∨ dir = .gt)
    {payloads others : List (Option t.Carrier)}
    (perm : (present (payloads.map (.ofOption t))).Perm (present (others.map (.ofOption t)))) :
    Aggregation.extreme dir (present (payloads.map (.ofOption t))) =
      Aggregation.extreme dir (present (others.map (.ofOption t))) := by
  obtain ⟨line, _, _, stand⟩ := exists_line exact way
  rw [present_payloads, present_payloads] at perm ⊢
  rw [List.map_perm_map_iff fun _ _ => scalar_inj] at perm
  cases given : payloads.reduceOption with
  | nil =>
    rw [given] at perm
    rw [perm.symm.eq_nil]
  | cons a rest =>
    rw [given] at perm
    cases given' : others.reduceOption with
    | nil =>
      rw [given'] at perm
      cases perm.eq_nil
    | cons b later =>
      rw [given'] at perm
      rw [extreme_scalars stand, extreme_scalars stand]
      exact congrArg _ ((foldl_isLeast _ a rest).unique perm (foldl_isLeast _ b later))

/-! ### Rows without a value -/

variable {e : Expr} {rows rows' extra : List Row} {values : List Value}

theorem valuesIn_payloads (typed : e.type? = some (.scalar t))
    (given : e.valuesIn rows = .ok values) :
    ∃ payloads : List (Option t.Carrier), values = payloads.map (.ofOption t) := by
  obtain ⟨payloads, each⟩ :=
    exists_forall₂_of_each (R := fun v payload => v = Value.ofOption t payload) fun v member => by
      obtain ⟨r, -, resolved⟩ := mapM_member given member
      exact Expr.exists_payload typed resolved
  exact ⟨payloads, List.forall₂_eq_eq_eq ▸ List.forall₂_map_right_iff.mpr each⟩

/-- Further rows whose values are NULL, wherever they stand, add nothing to the values. -/
theorem exists_valuesIn (given : e.valuesIn rows = .ok values)
    (blank : ∀ r ∈ extra, e.resolve r.env = .ok .null) (perm : rows'.Perm (rows ++ extra)) :
    ∃ values', e.valuesIn rows' = .ok values' ∧ (present values').Perm (present values) := by
  have nulls : e.valuesIn extra = .ok (extra.map fun _ => .null) := mapM_of_forall blank
  have both : e.valuesIn (rows ++ extra) = .ok (values ++ extra.map fun _ => .null) := by
    unfold Expr.valuesIn at given nulls ⊢
    rw [List.mapM_append, given, ok_bind, nulls]
    rfl
  have none_present : present (extra.map fun _ => .null) = [] := by
    simp [present, Value.isNull]
  obtain ⟨values', read⟩ : ∃ values', e.valuesIn rows' = .ok values' :=
    exists_mapM fun r member =>
      (mapM_each both (perm.mem_iff.mp member)).imp fun _ found => found.2
  refine ⟨values', read, ?_⟩
  have same := (mapM_perm perm read both).filter (!·.isNull)
  rw [List.filter_append] at same
  change (present values').Perm (present values ++ present (extra.map fun _ => .null)) at same
  rwa [none_present, List.append_nil] at same

end

theorem collect_operand (function : AggregateFunction) (e : Expr) (type : DataType)
    (rows : List Row) :
    Aggregation.collect ⟨function, some e, type⟩ rows = (e.valuesIn rows >>= fun values =>
      .ok (Aggregation.summary function type (present values))) := rfl

/-! ### Main statement -/

/-- Counts and extremes of an operand of a type other than Number, where it resolves in all rows:
the count is the number of values other than NULL, and the least and the greatest value are values of
the rows that no other lies below or above, or NULL if there are no others. Putting the rows in
another order and adding rows whose values are NULL changes none of the three. -/
theorem counts_and_extremes {e : Expr} {t : ScalarType} (typed : e.type? = some (.scalar t))
    (exact : t ≠ .number) :
    ∃ count least greatest, Aggregation.ofOperand .count (some e) = .ok count ∧
      Aggregation.ofOperand .min (some e) = .ok least ∧
      Aggregation.ofOperand .max (some e) = .ok greatest ∧
      ∀ rows values, e.valuesIn rows = .ok values → ∃ low high,
        count.collect rows = .ok (.integer (.ofNat (values.countP (!·.isNull)))) ∧
        (rows.length < 2 ^ 63 → (Int64.ofNat (values.countP (!·.isNull))).toInt =
          values.countP (!·.isNull)) ∧
        least.collect rows = .ok low ∧ low.IsExtreme .lt values ∧
        greatest.collect rows = .ok high ∧ high.IsExtreme .gt values ∧
        ∀ rows' extra, (∀ r ∈ extra, e.resolve r.env = .ok .null) → rows'.Perm (rows ++ extra) →
          count.collect rows' = count.collect rows ∧ least.collect rows' = .ok low ∧
            greatest.collect rows' = .ok high := by
  refine ⟨⟨.count, some e, .integer⟩, ⟨.min, some e, .scalar t⟩, ⟨.max, some e, .scalar t⟩,
    rfl, by simp [Aggregation.ofOperand, typed], by simp [Aggregation.ofOperand, typed],
    fun rows values given => ?_⟩
  have counted {values others : List Value}
      (same : (present values).length = others.countP (!·.isNull)) :
      Aggregation.summary .count .integer (present values) =
        .integer (.ofNat (others.countP (!·.isNull))) := congrArg (Value.integer <| .ofNat ·) same
  have number : (present values).length = values.countP (!·.isNull) :=
    List.countP_eq_length_filter.symm
  have width : values.length = rows.length := (mapM_ok given).length_eq.symm
  have few : values.countP (!·.isNull) ≤ values.length := List.countP_le_length
  obtain ⟨payloads, rfl⟩ := valuesIn_payloads typed given
  simp only [collect_operand, given, ok_bind, counted number]
  refine ⟨_, _, trivial, fun small => Int64.toInt_ofNat_of_lt (by omega),
    rfl, extreme_isExtreme exact (.inl rfl) payloads,
    rfl, extreme_isExtreme exact (.inr rfl) payloads, fun rows' extra blank perm => ?_⟩
  obtain ⟨values', given', same⟩ := exists_valuesIn given blank perm
  obtain ⟨payloads', rfl⟩ := valuesIn_payloads typed given'
  rw [given', ok_bind, ok_bind, ok_bind, counted (same.length_eq.trans number)]
  exact ⟨rfl, congrArg _ (extreme_perm exact (.inl rfl) same),
    congrArg _ (extreme_perm exact (.inr rfl) same)⟩

namespace Stays

def column : Structure := ⟨[⟨"stay", .integer, .measure⟩], by decide⟩

/-- The column of the rows. -/
def stay : Expr := .scalar .integer (.ofValues .integer (Checking.boundValue "stay"))

def row (v : Value) : Row := ⟨column, [v]⟩

def stays : List Row := [row (.integer 3), row .null, row (.integer 7)]

/-- The same rows the other way round, and one more without a value. -/
def reported : List Row := [row .null, row (.integer 7), row .null, row (.integer 3)]

end Stays

open Stays in
theorem longest_stay_reported :
    stay.type? = some .integer ∧ stay.valuesIn stays = .ok [.integer 3, .null, .integer 7] ∧
      reported.Perm (stays ++ [row .null]) ∧
      ∃ count greatest, Aggregation.ofOperand .count (some stay) = .ok count ∧
        Aggregation.ofOperand .max (some stay) = .ok greatest ∧
        count.collect stays = .ok (.integer 2) ∧ count.collect reported = .ok (.integer 2) ∧
        (Value.integer 7).IsExtreme .gt [.integer 3, .null, .integer 7] ∧
        greatest.collect reported = .ok (.integer 7) := by
  have given : stay.valuesIn stays = .ok [.integer 3, .null, .integer 7] := rfl
  have perm : reported.Perm (stays ++ [row .null]) := List.reverse_perm (stays ++ [row .null])
  have blank : ∀ r ∈ [row .null], stay.resolve r.env = .ok .null :=
    List.forall_mem_singleton.mpr rfl
  obtain ⟨count, _, greatest, counting, -, longest, each⟩ :=
    counts_and_extremes (e := stay) (t := .integer) rfl nofun
  obtain ⟨low, high, counted, -, -, -, found, extreme, moved⟩ := each stays _ given
  obtain ⟨same, -, again⟩ := moved reported _ blank perm
  cases longest
  cases found
  exact ⟨rfl, given, perm, count, _, counting, rfl, counted, same.trans counted, extreme, again⟩

end DatasetScript
