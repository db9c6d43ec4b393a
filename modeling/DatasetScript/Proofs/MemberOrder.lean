import DatasetScript.Json.Record
import Mathlib.Data.List.Nodup
/-!
# Order of members

The members of an object may stand in any order, as far as records are concerned. Main statements:
`Reorders.record?` reads from a reordered tree the fields that the tree holds, and
`reorders_canonical` says that sorting by name is such a reordering.
-/

namespace DatasetScript.Json

/-- Puts the members of every object into some order. -/
structure Reorders (f : Json → Json) : Prop where
  onAtoms (j : Json) (flat : j.depth = 0) : f j = j
  onArrays (items : List Json) : f (.array items) = .array (items.map f)
  onObjects (members : List (String × Json)) (distinct : (Assoc.names members).Nodup) :
    ∃ members', f (.object members) = .object members' ∧
      members'.Perm (members.map fun member => (member.1, f member.2))

/-! ### Sorted members -/

theorem canonicalItems_eq (items : List Json) : canonicalItems items = items.map canonical := by
  induction items with
  | nil => rfl
  | cons item rest ih => rw [canonicalItems, ih, List.map_cons]

theorem canonicalMembers_eq (members : List (String × Json)) :
    canonicalMembers members = members.map fun member => (member.1, member.2.canonical) := by
  induction members with
  | nil => rfl
  | cons member rest ih =>
    obtain ⟨name, item⟩ := member
    rw [canonicalMembers, ih, List.map_cons]

theorem reorders_id : Reorders id where
  onAtoms _ _ := rfl
  onArrays items := by rw [List.map_id, id]
  onObjects members _ := ⟨members, rfl, by simp⟩

theorem reorders_canonical : Reorders canonical where
  onAtoms j flat := by
    cases j with
    | array items => simp [depth] at flat
    | object members => simp [depth] at flat
    | _ => rfl
  onArrays items := by rw [canonical, canonicalItems_eq]
  onObjects members distinct := by
    refine ⟨_, by rw [canonical], ?_⟩
    rw [canonicalMembers_eq]
    apply Assoc.sorted_perm
    rwa [Assoc.names_map]

/-! ### Depth -/

theorem depth_lt_of_mem_items {items : List Json} {item : Json} (member : item ∈ items) :
    item.depth < (array items).depth := by
  change item.depth < depthOfItems items + 1
  induction items with
  | nil => cases member
  | cons first rest ih =>
    rw [depthOfItems]
    rcases List.mem_cons.mp member with rfl | later
    · omega
    · have below := ih later
      omega

theorem depth_lt_of_mem_members {members : List (String × Json)} {name : String} {item : Json}
    (member : (name, item) ∈ members) : item.depth < (object members).depth := by
  change item.depth < depthOfMembers members + 1
  induction members with
  | nil => cases member
  | cons first rest ih =>
    obtain ⟨other, first⟩ := first
    rw [depthOfMembers]
    rcases List.mem_cons.mp member with same | later
    · cases same
      omega
    · have below := ih later
      omega

theorem member?_of_depth {j : Json} (flat : j.depth = 0) (name : String) : j.member? name = none := by
  cases j with
  | object members => simp [depth] at flat
  | _ => rfl

/-! ### Members, records and lists -/

theorem occursOnce_of_nodup {members : List (String × Json)}
    (distinct : (Assoc.names members).Nodup) (name : String) : occursOnce members name := by
  have once := List.nodup_iff_count_le_one.mp distinct name
  unfold Assoc.names at once
  rw [List.count_eq_countP, List.countP_map, List.countP_eq_length_filter] at once
  exact decide_eq_true once

section

variable {f : Json → Json}

/-- Members are found by their names. -/
theorem Reorders.members (h : Reorders f) {members : List (String × Json)}
    (distinct : (Assoc.names members).Nodup) :
    ∃ members', f (.object members) = .object members' ∧ (Assoc.names members').Nodup ∧
      ∀ name, Assoc.find? members' name = (Assoc.find? members name).map f := by
  obtain ⟨members', moved, perm⟩ := h.onObjects members distinct
  have distinct' : (Assoc.names members').Nodup := by
    refine (perm.map Prod.fst).symm.nodup ?_
    rw [← Assoc.names_map f members] at distinct
    exact distinct
  refine ⟨members', moved, distinct', fun name => ?_⟩
  rw [Assoc.find?_perm distinct' perm, Assoc.find?_map]

theorem Reorders.member? (h : Reorders f) {members : List (String × Json)}
    (distinct : (Assoc.names members).Nodup) (name : String) :
    (f (.object members)).member? name = (Assoc.find? members name).map f := by
  obtain ⟨members', moved, -, found⟩ := h.members distinct
  rw [moved]
  exact found name

/-- A field that is no member is missing. -/
theorem Reorders.record? (h : Reorders f) {members : List (String × Json)}
    (distinct : (Assoc.names members).Nodup) (fields : List String) :
    (f (.object members)).record? fields =
      some (fields.map fun name => (Assoc.find? members name).map f) := by
  obtain ⟨members', moved, distinct', found⟩ := h.members distinct
  have once : fields.all (occursOnce members') := by
    rw [List.all_eq_true]
    intro name _
    exact occursOnce_of_nodup distinct' name
  rw [moved, Json.record?, if_pos once]
  congr 2
  funext name
  exact found name

/-- All fields that were written are found, in the order in which they were written. -/
theorem Reorders.fields (h : Reorders f) {members : List (String × Json)} {names : List String}
    (listed : Assoc.names members = names) (distinct : names.Nodup) :
    (f (.object members)).record? names = some (members.map fun member => some (f member.2)) := by
  subst listed
  rw [h.record? distinct, Assoc.names, List.map_map, Option.some.injEq]
  refine List.map_congr_left fun member here => ?_
  have found := (Assoc.find?_eq_some_iff distinct).mpr here
  rw [Function.comp_apply, found, Option.map_some]

theorem Reorders.single (h : Reorders f) (name : String) (content : Json) :
    f (.object [(name, content)]) = .object [(name, f content)] := by
  obtain ⟨members', moved, perm⟩ := h.onObjects [(name, content)] (List.nodup_singleton _)
  obtain rfl := List.perm_singleton.mp perm
  exact moved

theorem Reorders.depth_member (h : Reorders f) {members : List (String × Json)}
    (distinct : (Assoc.names members).Nodup) {name : String} {item : Json}
    (member : (name, item) ∈ members) : (f item).depth < (f (.object members)).depth := by
  obtain ⟨members', moved, perm⟩ := h.onObjects members distinct
  have here : (name, f item) ∈ members' :=
    perm.mem_iff.mpr (List.mem_map.mpr ⟨(name, item), member, rfl⟩)
  rw [moved]
  exact depth_lt_of_mem_members here

theorem Reorders.depth_fields (h : Reorders f) {members : List (String × Json)} {depth : Nat}
    (distinct : (Assoc.names members).Nodup) (shallow : (f (.object members)).depth ≤ depth) :
    ∀ member ∈ members, (f member.2).depth ≤ depth := by
  intro member here
  have below := h.depth_member distinct here
  omega

theorem Reorders.depth_item (h : Reorders f) {items : List Json} {item : Json}
    (member : item ∈ items) : (f item).depth < (f (.array items)).depth := by
  rw [h.onArrays]
  exact depth_lt_of_mem_items (List.mem_map_of_mem member)

theorem Reorders.list? (h : Reorders f) {α : Type} {decode : Json → Option α} {encode : α → Json}
    {xs : List α} (each : ∀ x ∈ xs, decode (f (encode x)) = some x) :
    (f (.array (xs.map encode))).list? decode = some xs := by
  rw [h.onArrays, Json.list?]
  induction xs with
  | nil => rfl
  | cons x xs ih =>
    obtain ⟨first, later⟩ := List.forall_mem_cons.mp each
    rw [List.map_cons, List.map_cons, List.mapM_cons, first, ih later]
    rfl

/-- What is written as null when it is missing is read back, if null stands for nothing else. -/
theorem Reorders.optional? (h : Reorders f) {α : Type} {decode : Json → Option α}
    {encode : α → Json} {value : Option α} (strict : decode .null = none)
    (each : ∀ x ∈ value, decode (f (encode x)) = some x) :
    Json.optional? decode (some (f ((value.map encode).getD .null))) = some value := by
  cases value with
  | none =>
    rw [Option.map_none, Option.getD_none, h.onAtoms _ rfl]
    rfl
  | some x =>
    have read : decode (f (encode x)) = some x := each x rfl
    rw [Option.map_some, Option.getD_some]
    unfold Json.optional?
    split
    · contradiction
    · rename_i written
      rw [Option.some.inj written, strict] at read
      contradiction
    · rename_i written
      rw [← Option.some.inj written, read]
      rfl

end

end DatasetScript.Json
