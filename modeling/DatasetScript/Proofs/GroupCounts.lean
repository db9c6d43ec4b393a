import DatasetScript.Proofs.Keys
import DatasetScript.Proofs.Regular
import DatasetScript.Relational.Aggregate
import Mathlib.Data.List.Induction
/-!
# Numbers of groups

Grouping opens a group for every key that none of the keys so far agrees with, whatever values keys
hold: NaN within a dataset agrees with nothing, not even itself. An aggregation gives one row for each
group, and one row for no rows at all if the result holds aggregations only, also where it was asked
for by key. Main statements: `groupByKey_keys` and `aggregate_row_count`.
-/

namespace DatasetScript

/-! ### Equality either way round -/

theorem Structure.isCompatibleWith_comm (a b : Structure) :
    a.isCompatibleWith b = b.isCompatibleWith a :=
  Bool.eq_iff_iff.mpr ⟨isCompatibleWith_symm, isCompatibleWith_symm⟩

open Float.Model in
theorem unpacked_beq_comm (a b : UnpackedFloat) : a.beq b = b.beq a := by
  unfold UnpackedFloat.beq
  cases a with
  | notANumber => cases b <;> rfl
  | infinity s =>
    cases b with
    | infinity t => cases s <;> cases t <;> rfl
    | _ => cases s <;> rfl
  | zero s =>
    cases b with
    | infinity t => cases t <;> rfl
    | finite t m e positive => cases t <;> rfl
    | _ => rfl
  | finite s m e positive =>
    cases b with
    | infinity t => cases s <;> cases t <;> rfl
    | notANumber => cases s <;> rfl
    | zero t => cases s <;> rfl
    | finite t n f positive' =>
      cases s <;> cases t <;> dsimp only [UnpackedFloat.compare] <;> simp [@eq_comm _ e, @eq_comm _ m]

theorem float_beq_comm (x y : Float) : (x == y) = (y == x) := unpacked_beq_comm _ _

mutual

theorem Value.beq_comm : (v w : Value) → v.beq w = w.beq v
  | .dataset d, w => by cases w <;> simp only [Value.beq, d.beq_comm]
  | .number x, w => by cases w <;> simp only [Value.beq, float_beq_comm x]
  | .null, w => by cases w <;> simp only [Value.beq]
  | .integer a, w => by cases w <;> simp only [Value.beq, BEq.comm (a := a)]
  | .boolean a, w => by cases w <;> simp only [Value.beq, BEq.comm (a := a)]
  | .string s, w => by cases w <;> simp only [Value.beq, BEq.comm (a := s)]

theorem cellsBeq_comm : (vs ws : List Value) → cellsBeq vs ws = cellsBeq ws vs
  | [], ws => by cases ws <;> simp only [cellsBeq]
  | v :: vs, [] => by simp only [cellsBeq]
  | v :: vs, w :: ws => by simp only [cellsBeq, v.beq_comm w, cellsBeq_comm vs ws]

theorem Row.beq_comm : (r s : Row) → r.beq s = s.beq r
  | ⟨layout, cells⟩, ⟨layout', cells'⟩ => by
    simp only [Row.beq, layout.isCompatibleWith_comm layout', cellsBeq_comm cells cells']

theorem rowsBeq_comm : (rs ss : List Row) → rowsBeq rs ss = rowsBeq ss rs
  | [], ss => by cases ss <;> simp only [rowsBeq]
  | r :: rs, [] => by simp only [rowsBeq]
  | r :: rs, s :: ss => by simp only [rowsBeq, r.beq_comm s, rowsBeq_comm rs ss]

theorem Dataset.beq_comm : (d e : Dataset) → d.beq e = e.beq d
  | ⟨layout, rows⟩, ⟨layout', rows'⟩ => by
    simp only [Dataset.beq, layout.isCompatibleWith_comm layout', rowsBeq_comm rows rows']

end

theorem sameKeyCell_comm (v w : Value) : sameKeyCell v w = sameKeyCell w v := by
  cases v with
  | number x =>
    cases w with
    | number y => exact BEq.comm
    | _ => exact Value.beq_comm _ _
  | _ => cases w <;> exact Value.beq_comm _ _

theorem sameKey_comm (key other : List Value) : sameKey key other = sameKey other key := by
  induction key generalizing other with
  | nil => cases other <;> rfl
  | cons v vs ih =>
    cases other with
    | nil => rfl
    | cons w ws =>
      unfold sameKey
      rw [sameKeyCell_comm v w, ih ws]

/-! ### Groups and distinct keys -/

theorem eraseDupsBy_loop_concat {α : Type} (same : α → α → Bool) (items kept : List α) (a : α) :
    List.eraseDupsBy.loop same (items ++ [a]) kept =
      List.eraseDupsBy.loop same items kept ++
        bif (List.eraseDupsBy.loop same items kept).any (same a) then [] else [a] := by
  induction items generalizing kept with
  | nil =>
    simp only [List.nil_append, List.eraseDupsBy.loop, List.any_reverse]
    cases kept.any (same a) <;> simp
  | cons b rest ih =>
    simp only [List.cons_append, List.eraseDupsBy.loop]
    cases kept.any (same b) with
    | true => exact ih kept
    | false => exact ih (b :: kept)

/-- A key counts if it agrees with none of those that count before it. -/
theorem distinctKeys_snoc (keys : List (List Value)) (key : List Value) :
    distinctKeys (keys ++ [key]) =
      distinctKeys keys ++ bif (distinctKeys keys).any (sameKey key) then [] else [key] :=
  eraseDupsBy_loop_concat sameKey keys [] key

theorem addToGroup_keys {α : Type} (key : List Value) (a : α)
    (groups : List (List Value × List α)) :
    (addToGroup key a groups).map Prod.fst =
      groups.map Prod.fst ++ bif (groups.map Prod.fst).any (sameKey key) then [] else [key] := by
  induction groups with
  | nil => rfl
  | cons group rest ih =>
    obtain ⟨other, members⟩ := group
    unfold addToGroup
    rw [List.map_cons, List.any_cons, sameKey_comm key other]
    cases sameKey other key with
    | true => simp
    | false => simp [ih]

/-- The groups go by the distinct keys. -/
theorem groupByKey_keys {α : Type} (key : α → List Value) (items : List α) :
    (groupByKey key items).map Prod.fst = distinctKeys (items.map key) := by
  induction items using List.reverseRecOn with
  | nil => rfl
  | append_singleton items a ih =>
    unfold groupByKey at ih ⊢
    rw [List.foldl_append, List.foldl_cons, List.foldl_nil, addToGroup_keys, ih, List.map_append,
      List.map_singleton, distinctKeys_snoc]

theorem groupsOf_length (carries : Bool) (key : Row → List Value) (rows : List Row) :
    (Query.groupsOf carries key rows).length =
      if rows = [] ∧ carries = false then 1 else (distinctKeys (rows.map key)).length := by
  have count : (groupByKey key rows).length = (distinctKeys (rows.map key)).length := by
    rw [← groupByKey_keys, List.length_map]
  cases rows with
  | nil => cases carries <;> rfl
  | cons r rest =>
    have some_key : (distinctKeys ((r :: rest).map key)).length ≠ 0 := by
      rw [List.map_cons, distinctKeys_cons]
      simp
    rw [if_neg (by simp), ← count]
    unfold Query.groupsOf
    split
    · rename_i none_left
      rw [← count, none_left] at some_key
      exact (some_key rfl).elim
    · exact List.length_map _

/-! ### Rows of an aggregation -/

theorem layRows_length {layout : Structure} {rows : List (List Value)} {d : Dataset}
    (h : Query.layRows layout rows = .ok d) : d.rows.length = rows.length := by
  obtain ⟨laid, made, h⟩ := bind_ok h
  rw [pure_ok h]
  exact (mapM_ok made).length_eq.symm

/-- A resolved aggregation has one row for each distinct key, except that it has one row for no rows
where all its columns are aggregations. -/
theorem aggregate_length {input q : Query} {output : Structure}
    {aggregations : List (String × Aggregation)} {key : Row → List Value} {env : Env}
    {d out : Dataset} (accepted : input.aggregate output aggregations key = .ok q)
    (given : input.run env = .ok d) (resolved : q.run env = .ok out) :
    out.rows.length =
      if d.rows = [] ∧ Query.carriesColumn output aggregations = false then 1
      else (distinctKeys (d.rows.map key)).length := by
  obtain ⟨-, runs⟩ := Query.aggregate_made accepted
  rw [runs, given, ok_bind] at resolved
  obtain ⟨rows, made, laid⟩ := bind_ok resolved
  rw [layRows_length laid, ← (mapM_ok made).length_eq, groupsOf_length]

/-- A resolved aggregation has as many rows as there are distinct keys, if and only if there are rows
or some column is not an aggregation. Otherwise there are no keys and yet there is a row, even where
rows are grouped by key columns. -/
theorem aggregate_row_count {input q : Query} {output : Structure}
    {aggregations : List (String × Aggregation)} {key : Row → List Value} {env : Env}
    {d out : Dataset} (accepted : input.aggregate output aggregations key = .ok q)
    (given : input.run env = .ok d) (resolved : q.run env = .ok out) :
    (out.rows.length = (distinctKeys (d.rows.map key)).length ↔
        d.rows ≠ [] ∨ Query.carriesColumn output aggregations = true) ∧
      (d.rows = [] → Query.carriesColumn output aggregations = false →
        distinctKeys (d.rows.map key) = [] ∧ out.rows.length = 1) := by
  have count := aggregate_length accepted given resolved
  by_cases rowless : d.rows = [] ∧ Query.carriesColumn output aggregations = false
  · rw [if_pos rowless] at count
    have keyless : distinctKeys (d.rows.map key) = [] := by
      rw [rowless.1]
      rfl
    refine ⟨⟨fun same => ?_, fun other => ?_⟩, fun _ _ => ⟨keyless, count⟩⟩
    · rw [count, keyless] at same
      cases same
    · rcases other with some_row | carries
      · exact (some_row rowless.1).elim
      · exact (Bool.false_ne_true (rowless.2.symm.trans carries)).elim
  · rw [if_neg rowless] at count
    refine ⟨⟨fun _ => ?_, fun _ => count⟩, fun empty carries => (rowless ⟨empty, carries⟩).elim⟩
    by_cases empty : d.rows = []
    · exact .inr (Bool.of_not_eq_false fun carries => rowless ⟨empty, carries⟩)
    · exact .inl empty

namespace CountedByKey

/-- A dataset with a key column and no rows. -/
def unknown : Dataset := .empty ⟨[⟨"id", .integer, .identifier⟩], by decide⟩

def output : Structure := ⟨[⟨"n", .integer, .measure⟩], by decide⟩

def count : List (String × Aggregation) := [("n", ⟨.count, none, .integer⟩)]

end CountedByKey

open CountedByKey in
/-- Counting by the key column, which the result does not hold, gives a row for no key. -/
theorem row_without_key :
    ["id"].mapM unknown.layout.place = .ok [0] ∧
      ∃ q out, (Query.constant unknown).aggregate output count (·.pick [0]) = .ok q ∧
        q.run (fun _ => none) = .ok out ∧ distinctKeys (unknown.rows.map (·.pick [0])) = [] ∧
        out.rows.length = 1 := by
  have given : (Query.constant unknown).run (fun _ => none) = .ok unknown := rfl
  have aggregated : Query.carriesColumn output count = false := rfl
  refine ⟨rfl, _, ⟨output, [⟨output, [.integer 0]⟩]⟩, rfl, rfl, ?_⟩
  exact (aggregate_row_count rfl given rfl).2 rfl aggregated

end DatasetScript
