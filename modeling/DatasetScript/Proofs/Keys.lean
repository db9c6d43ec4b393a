import DatasetScript.Data.Key
import Mathlib.Data.List.Basic
import Mathlib.Data.List.Perm.Basic
/-!
# Keys and the rows that have them

Keys without datasets are the same exactly if they are equal, there being one NaN (see
`DatasetScript.Data.Key`). Main statements: `distinctKeys_append` and `distinctKeys_flatMap` say in
which order keys are met, and `perm_flatMap_filter` that a list of rows falls into its keys.
-/

namespace DatasetScript

/-- Whether a value is not a dataset. -/
def Value.isPlain : Value → Bool
  | .dataset _ => false
  | _ => true

/-- No cell of the key is a dataset. -/
def PlainKey (key : List Value) : Prop := ∀ v ∈ key, v.isPlain

/-- Every key once, in the order in which they are met. -/
def distinctKeys (keys : List (List Value)) : List (List Value) := keys.eraseDupsBy sameKey

/-! ### Equal keys -/

theorem toBits_inj {x y : Float} (h : x.toBits = y.toBits) : x = y := by
  obtain ⟨⟨a, validA⟩⟩ := x
  obtain ⟨⟨b, validB⟩⟩ := y
  cases (show a = b from h)
  rfl

theorem sameKeyCell_iff {v w : Value} (plain : v.isPlain) : sameKeyCell v w ↔ v = w := by
  cases v with
  | dataset d => cases plain
  | number x =>
    cases w with
    | number y =>
      simp only [sameKeyCell, beq_iff_eq, Value.number.injEq]
      exact ⟨toBits_inj, congrArg _⟩
    | _ => simp [sameKeyCell, BEq.beq, Value.beq]
  | _ => cases w <;> simp [sameKeyCell, BEq.beq, Value.beq]

theorem sameKey_iff {key other : List Value} (plain : PlainKey key) :
    sameKey key other ↔ key = other := by
  induction key generalizing other with
  | nil => cases other <;> simp [sameKey]
  | cons v vs ih =>
    cases other with
    | nil => simp [sameKey]
    | cons w ws =>
      have cell := sameKeyCell_iff (w := w) (plain v List.mem_cons_self)
      have rest : sameKey vs ws ↔ vs = ws :=
        ih fun u member => plain u (List.mem_cons_of_mem v member)
      simp only [sameKey, Bool.and_eq_true, cell, rest, List.cons.injEq]

theorem sameKey_eq_false_iff {key other : List Value} (plain : PlainKey key) :
    sameKey key other = false ↔ key ≠ other := by
  rw [← Bool.not_eq_true, sameKey_iff plain]

theorem sameKey_self {key : List Value} (plain : PlainKey key) : sameKey key key :=
  (sameKey_iff plain).mpr rfl

/-! ### Distinct keys -/

section

variable {keys : List (List Value)} {key : List Value}

@[simp] theorem distinctKeys_nil : distinctKeys [] = [] := rfl

theorem distinctKeys_cons (key : List Value) (keys : List (List Value)) :
    distinctKeys (key :: keys) =
      key :: distinctKeys (keys.filter fun other => !sameKey other key) := by
  simp [distinctKeys, List.eraseDupsBy_cons]

/-- Induction that takes out all keys equal to the first one. -/
theorem distinct_induction {motive : (keys : List (List Value)) → (∀ k ∈ keys, PlainKey k) → Prop}
    (nil : motive [] nofun)
    (cons : ∀ first rest (plain : PlainKey first) (later : ∀ k ∈ rest, PlainKey k),
      motive (rest.filter fun other => !sameKey other first)
          (fun k member => later k (List.mem_filter.mp member).1) →
        motive (first :: rest) (List.forall_mem_cons.mpr ⟨plain, later⟩)) :
    (keys : List (List Value)) → (plain : ∀ k ∈ keys, PlainKey k) → motive keys plain
  | [], _ => nil
  | first :: rest, plain =>
    have ⟨here, later⟩ := List.forall_mem_cons.mp plain
    cons first rest here later (distinct_induction nil cons _ _)
termination_by keys => keys.length
decreasing_by exact Nat.lt_succ_of_le (List.length_filter_le _ _)

theorem mem_distinctKeys (plain : ∀ k ∈ keys, PlainKey k) : key ∈ distinctKeys keys ↔ key ∈ keys := by
  induction keys, plain using distinct_induction with
  | nil => simp
  | cons first rest _ later ih =>
    rw [distinctKeys_cons, List.mem_cons, List.mem_cons, ih, List.mem_filter]
    by_cases equal : key = first
    · simp [equal]
    · simp only [equal, false_or, Bool.not_eq_true', and_iff_left_iff_imp]
      exact fun member => (sameKey_eq_false_iff (later key member)).mpr equal

theorem distinctKeys_filter (p : List Value → Bool) (plain : ∀ k ∈ keys, PlainKey k) :
    distinctKeys (keys.filter p) = (distinctKeys keys).filter p := by
  induction keys, plain using distinct_induction with
  | nil => rfl
  | cons first rest _ later ih =>
    rw [distinctKeys_cons, List.filter_cons, List.filter_cons]
    split
    · rw [distinctKeys_cons, ← ih, List.filter_filter, List.filter_filter]
      simp only [Bool.and_comm]
    · rename_i refused
      rw [← ih, List.filter_filter]
      congr 1
      refine List.filter_congr fun k member => ?_
      by_cases equal : k = first
      · simp [equal, Bool.eq_false_iff.mpr refused]
      · simp [(sameKey_eq_false_iff (later k member)).mpr equal]

theorem distinctKeys_append {others : List (List Value)} (plain : ∀ k ∈ keys, PlainKey k) :
    distinctKeys (keys ++ others) =
      distinctKeys keys ++ distinctKeys (others.filter fun k => !keys.any (sameKey k)) := by
  induction keys, plain using distinct_induction generalizing others with
  | nil => simp
  | cons first rest _ later ih =>
    rw [List.cons_append, distinctKeys_cons, distinctKeys_cons, List.filter_append, ih,
      List.cons_append, List.filter_filter]
    congr 3
    refine List.filter_congr fun k _ => ?_
    by_cases same : sameKey k first
    · simp [same]
    · -- what equals `k` is not `first`, so taking out `first` changes nothing
      have unchanged : (rest.filter fun other => !sameKey other first).any (sameKey k) =
          rest.any (sameKey k) := by
        rw [Bool.eq_iff_iff, List.any_eq_true, List.any_eq_true]
        constructor
        · rintro ⟨x, member, here⟩
          exact ⟨x, (List.mem_filter.mp member).1, here⟩
        · rintro ⟨x, member, here⟩
          refine ⟨x, List.mem_filter.mpr ⟨member, ?_⟩, here⟩
          rw [Bool.not_eq_true', sameKey_eq_false_iff (later x member)]
          rintro rfl
          exact same here
      simp [same, unchanged]

theorem distinctKeys_of_eq (plain : PlainKey key) (some_key : keys ≠ [])
    (equal : ∀ k ∈ keys, k = key) : distinctKeys keys = [key] := by
  cases keys with
  | nil => contradiction
  | cons first rest =>
    have none_left : (rest.filter fun other => !sameKey other first) = [] := by
      refine List.filter_eq_nil_iff.mpr fun k member => ?_
      rw [equal k (List.mem_cons_of_mem first member), equal first List.mem_cons_self]
      simp [sameKey_self plain]
    rw [distinctKeys_cons, none_left, equal first List.mem_cons_self]
    rfl

theorem distinctKeys_nodup (plain : ∀ k ∈ keys, PlainKey k) : (distinctKeys keys).Nodup := by
  induction keys, plain using distinct_induction with
  | nil => exact List.nodup_nil
  | cons first rest here later ih =>
    rw [distinctKeys_cons, List.nodup_cons, mem_distinctKeys]
    · refine ⟨fun member => ?_, ih⟩
      have different := (List.mem_filter.mp member).2
      rw [sameKey_self here] at different
      cases different
    · exact fun k member => later k (List.mem_filter.mp member).1

theorem any_sameKey_iff (plain : PlainKey key) : keys.any (sameKey key) ↔ key ∈ keys := by
  rw [List.any_eq_true]
  constructor
  · rintro ⟨other, member, same⟩
    rwa [(sameKey_iff plain).mp same]
  · exact fun member => ⟨key, member, sameKey_self plain⟩

theorem any_sameKey_eq_false_iff (plain : PlainKey key) :
    keys.any (sameKey key) = false ↔ key ∉ keys := by
  rw [← Bool.not_eq_true, any_sameKey_iff plain]

theorem any_distinctKeys (plainKeys : ∀ k ∈ keys, PlainKey k) (plain : PlainKey key) :
    (distinctKeys keys).any (sameKey key) = keys.any (sameKey key) := by
  rw [Bool.eq_iff_iff, any_sameKey_iff plain, any_sameKey_iff plain, mem_distinctKeys plainKeys]

/-- One more key counts unless it was met before. -/
theorem distinctKeys_concat (plainKeys : ∀ k ∈ keys, PlainKey k) :
    distinctKeys (keys ++ [key]) =
      distinctKeys keys ++ if keys.any (sameKey key) then [] else [key] := by
  rw [distinctKeys_append plainKeys, List.filter_singleton]
  cases keys.any (sameKey key) <;> rfl

theorem any_sameKey_of_eq {other : List Value} (some_key : keys ≠ []) (equal : ∀ k ∈ keys, k = key) :
    keys.any (sameKey other) = sameKey other key := by
  obtain ⟨first, rest, rfl⟩ := List.exists_cons_of_ne_nil some_key
  rw [Bool.eq_iff_iff, List.any_eq_true]
  constructor
  · rintro ⟨k, member, same⟩
    rwa [equal k member] at same
  · intro same
    exact ⟨first, List.mem_cons_self, by rwa [equal first List.mem_cons_self]⟩

end

/-! ### Rows by key -/

section

variable {α β : Type} {rows : List α} {key : α → List Value}

/-- What is kept of parts that are kept or dropped as a whole. -/
theorem filter_flatMap_of_eq {parts : α → List β} {p : β → Bool} {q : α → Bool}
    (whole : ∀ a ∈ rows, ∀ b ∈ parts a, p b = q a) :
    (rows.flatMap parts).filter p = (rows.filter q).flatMap parts := by
  induction rows with
  | nil => rfl
  | cons a rest ih =>
    have rest_kept := ih fun b member => whole b (List.mem_cons_of_mem a member)
    rw [List.flatMap_cons, List.filter_append, rest_kept, List.filter_cons]
    by_cases chosen : q a
    · have all_kept : (parts a).filter p = parts a := List.filter_eq_self.mpr fun b member =>
        (whole a List.mem_cons_self b member).trans chosen
      rw [all_kept, if_pos chosen, List.flatMap_cons]
    · have none_left : (parts a).filter p = [] := List.filter_eq_nil_iff.mpr fun b member => by
        rw [whole a List.mem_cons_self b member]
        exact chosen
      rw [none_left, if_neg chosen, List.nil_append]

/-- Each row gives way to rows of its own key, or to none: the keys left are met in the same order. -/
theorem distinctKeys_flatMap {keyOut : β → List Value} {parts : α → List β} {p : List Value → Bool}
    (plain : ∀ a ∈ rows, PlainKey (key a)) (own : ∀ a ∈ rows, ∀ b ∈ parts a, keyOut b = key a)
    (kept : ∀ a ∈ rows, parts a ≠ [] ↔ p (key a)) :
    distinctKeys ((rows.flatMap parts).map keyOut) = (distinctKeys (rows.map key)).filter p := by
  induction rows with
  | nil => rfl
  | cons a rest ih =>
    have plainRest : ∀ k ∈ rest.map key, PlainKey k :=
      List.forall_mem_map.mpr fun b here => plain b (List.mem_cons_of_mem a here)
    have ih := ih (fun b member => plain b (List.mem_cons_of_mem a member))
      (fun b member => own b (List.mem_cons_of_mem a member))
      (fun b member => kept b (List.mem_cons_of_mem a member))
    have keeps := kept a List.mem_cons_self
    have plainA := plain a List.mem_cons_self
    have plainOut : ∀ k ∈ (rest.flatMap parts).map keyOut, PlainKey k := by
      intro k member
      obtain ⟨b, here, rfl⟩ := List.mem_map.mp member
      obtain ⟨c, inRest, made⟩ := List.mem_flatMap.mp here
      rw [own c (List.mem_cons_of_mem a inRest) b made]
      exact plain c (List.mem_cons_of_mem a inRest)
    have equal : ∀ k ∈ (parts a).map keyOut, k = key a :=
      List.forall_mem_map.mpr fun b here => own a List.mem_cons_self b here
    rw [List.flatMap_cons, List.map_append, List.map_cons, distinctKeys_cons, List.filter_cons]
    by_cases some_part : parts a = []
    · have refused : p (key a) = false := by simpa [some_part] using keeps
      rw [some_part, List.map_nil, List.nil_append, ih, if_neg (by simp [refused]),
        distinctKeys_filter _ plainRest, List.filter_filter]
      refine List.filter_congr fun k member => ?_
      by_cases same : sameKey k (key a)
      · have here := (sameKey_iff (plainRest k ((mem_distinctKeys plainRest).mp member))).mp same
        simp [here, refused]
      · simp [same]
    · have accepted : p (key a) := keeps.mp some_part
      rw [distinctKeys_append fun k member => equal k member ▸ plainA,
        distinctKeys_of_eq plainA (by simpa using some_part) equal, if_pos accepted,
        distinctKeys_filter _ plainRest, distinctKeys_filter _ plainOut, ih, List.filter_filter,
        List.filter_filter, List.singleton_append]
      congr 1
      refine List.filter_congr fun k _ => ?_
      rw [any_sameKey_of_eq (by simpa using some_part) equal, Bool.and_comm]

/-- The groups of other keys do not change when the rows with one key are taken out. -/
theorem filter_others {first k : List Value} (other : k ≠ first) (plain : ∀ a ∈ rows, PlainKey (key a)) :
    ((rows.filter fun a => !sameKey (key a) first).filter fun a => sameKey (key a) k) =
      rows.filter fun a => sameKey (key a) k := by
  rw [List.filter_filter]
  refine List.filter_congr fun a here => ?_
  by_cases equal : key a = k
  · simp [(sameKey_eq_false_iff (plain a here)).mpr (equal ▸ other)]
  · simp [(sameKey_eq_false_iff (plain a here)).mpr equal]

theorem perm_flatMap_of_covering {keys : List (List Value)} (nodup : keys.Nodup)
    (plain : ∀ a ∈ rows, PlainKey (key a)) (covered : ∀ a ∈ rows, key a ∈ keys) :
    rows.Perm (keys.flatMap fun k => rows.filter fun a => sameKey (key a) k) := by
  induction keys generalizing rows with
  | nil =>
    have none_left : rows = [] := List.eq_nil_iff_forall_not_mem.mpr fun a member =>
      List.not_mem_nil (covered a member)
    rw [none_left]
    exact List.Perm.refl _
  | cons first rest ih =>
    obtain ⟨absent, nodup⟩ := List.nodup_cons.mp nodup
    have covers : ∀ a ∈ rows.filter fun a => !sameKey (key a) first, key a ∈ rest := by
      intro a member
      obtain ⟨here, different⟩ := List.mem_filter.mp member
      rw [Bool.not_eq_true', sameKey_eq_false_iff (plain a here)] at different
      exact (List.mem_cons.mp (covered a here)).resolve_left different
    have groups := ih nodup (fun a member => plain a (List.mem_filter.mp member).1) covers
    have unchanged : (rest.flatMap fun k => (rows.filter fun a => !sameKey (key a) first).filter fun a =>
        sameKey (key a) k) = rest.flatMap fun k => rows.filter fun a => sameKey (key a) k :=
      List.flatMap_congr fun k member => filter_others (ne_of_mem_of_not_mem member absent) plain
    rw [unchanged] at groups
    rw [List.flatMap_cons]
    exact (List.filter_append_perm (fun a => sameKey (key a) first) rows).symm.trans
      (groups.append_left _)

/-- Rows fall into their keys. -/
theorem perm_flatMap_filter (plain : ∀ a ∈ rows, PlainKey (key a)) :
    rows.Perm ((distinctKeys (rows.map key)).flatMap fun k =>
      rows.filter fun a => sameKey (key a) k) := by
  have plainKeys : ∀ k ∈ rows.map key, PlainKey k := List.forall_mem_map.mpr plain
  exact perm_flatMap_of_covering (distinctKeys_nodup plainKeys) plain fun a member =>
    (mem_distinctKeys plainKeys).mpr (List.mem_map_of_mem member)

end

end DatasetScript
