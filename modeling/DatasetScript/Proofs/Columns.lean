import DatasetScript.Data.Bindings
import DatasetScript.Proofs.Outcome
import Mathlib.Data.List.Nodup
import Mathlib.Data.List.Perm.Subperm
/-!
# Columns of a structure

Names find columns and places alike, since no name comes twice. Main statements:
`isCompatibleWith_iff_perm` says that compatible structures order the same columns differently, and
`eq_of_isCompatibleWith` that the order of their names is all they may differ in.
-/

namespace DatasetScript.Structure

variable {s a b : Structure} {c : Component} {name : String} {i : Nat}

theorem eq_of_components (h : a.components = b.components) : a = b := by
  cases a
  cases b
  cases h
  rfl

/-! ### Looking up -/

theorem eq_of_mem_of_name {c d : Component} (hc : c ∈ s.components) (hd : d ∈ s.components)
    (same : c.name = d.name) : c = d :=
  List.inj_on_of_nodup_map s.nodup hc hd same

theorem get?_eq_some_iff : s.get? name = some c ↔ c ∈ s.components ∧ c.name = name := by
  constructor
  · intro found
    exact ⟨List.mem_of_find?_eq_some found, by simpa using List.find?_some found⟩
  · rintro ⟨member, rfl⟩
    cases found : s.get? c.name with
    | none =>
      have absent := List.find?_eq_none.mp found c member
      simp at absent
    | some d =>
      have same : d.name = c.name := by simpa using List.find?_some found
      rw [eq_of_mem_of_name (List.mem_of_find?_eq_some found) member same]

theorem indexOf?_eq_some_iff :
    s.indexOf? name = some i ↔ ∃ c, s.components[i]? = some c ∧ c.name = name := by
  unfold indexOf?
  rw [List.findIdx?_eq_some_iff_getElem]
  constructor
  · rintro ⟨bound, here, -⟩
    exact ⟨s.components[i], List.getElem?_eq_getElem bound, by simpa using here⟩
  · rintro ⟨c, at_i, rfl⟩
    obtain ⟨bound, rfl⟩ := List.getElem?_eq_some_iff.mp at_i
    refine ⟨bound, by simp, fun j before found => ?_⟩
    have same : s.components[j].name = s.components[i].name := by simpa using found
    have names := List.nodup_iff_getElem?_ne_getElem?.mp s.nodup j i before (by simpa using bound)
    apply names
    simp [List.getElem?_eq_getElem bound, List.getElem?_eq_getElem (Nat.lt_trans before bound), same]

theorem exists_indexOf? (h : s.get? name = some c) :
    ∃ i, s.indexOf? name = some i ∧ s.components[i]? = some c := by
  obtain ⟨member, same⟩ := get?_eq_some_iff.mp h
  obtain ⟨i, at_i⟩ := List.getElem?_of_mem member
  exact ⟨i, indexOf?_eq_some_iff.mpr ⟨c, at_i, same⟩, at_i⟩

theorem mem_names_iff : name ∈ s.names ↔ ∃ c, s.get? name = some c := by
  simp only [names, List.mem_map, get?_eq_some_iff]

theorem contains_iff : s.contains name ↔ name ∈ s.names := by
  rw [mem_names_iff, contains, Option.isSome_iff_exists]

theorem column_ok (h : s.column name = .ok c) : s.get? name = some c := by
  unfold column at h
  split at h
  · rename_i found
    rw [found, Except.ok.inj h]
  · cases h

theorem column_of_get? (h : s.get? name = some c) : s.column name = .ok c := by
  simp [column, h]

/-- Columns that are looked up have the names that they were looked up by. -/
theorem columns_names {names : List String} {columns : List Component}
    (found : names.mapM s.column = .ok columns) : columns.map Component.name = names := by
  have each := mapM_ok found
  clear found
  induction each with
  | nil => rfl
  | cons column _ ih => rw [List.map_cons, ih, (get?_eq_some_iff.mp (column_ok column)).2]

theorem place_ok (h : s.place name = .ok i) : s.indexOf? name = some i := by
  unfold place at h
  split at h
  · rename_i found
    rw [found, Except.ok.inj h]
  · cases h

theorem place_of_indexOf? (h : s.indexOf? name = some i) : s.place name = .ok i := by
  simp [place, h]

/-- A name has the place at which it stands. -/
theorem exists_indexOf?_of_mem (known : name ∈ s.names) :
    ∃ i, s.indexOf? name = some i ∧ s.names[i]? = some name := by
  obtain ⟨c, member, named⟩ := List.mem_map.mp known
  obtain ⟨i, place, here⟩ := exists_indexOf? (get?_eq_some_iff.mpr ⟨member, named⟩)
  exact ⟨i, place, by rw [names, List.getElem?_map, here, Option.map_some, named]⟩

theorem indexOf?_eq_none (unknown : name ∉ s.names) : s.indexOf? name = none := by
  rw [Option.eq_none_iff_forall_ne_some]
  intro i here
  obtain ⟨c, at_i, named⟩ := indexOf?_eq_some_iff.mp here
  exact unknown (List.mem_map.mpr ⟨c, List.mem_of_getElem? at_i, named⟩)

theorem exists_place (known : name ∈ s.names) : ∃ i, s.place name = .ok i := by
  obtain ⟨i, place, -⟩ := exists_indexOf?_of_mem known
  exact ⟨i, place_of_indexOf? place⟩

theorem place_of_unknown (unknown : name ∉ s.names) :
    s.place name = .error (.unknownColumn name) := by
  simp [place, indexOf?_eq_none unknown]

theorem ofComponents_ok {cs : List Component} (h : ofComponents cs = .ok s) : s.components = cs := by
  unfold ofComponents at h
  split at h
  · rw [← Except.ok.inj h]
  · cases h

theorem ofComponents_of_nodup {cs : List Component} (nodup : (cs.map Component.name).Nodup) :
    ofComponents cs = .ok ⟨cs, nodup⟩ := dif_pos nodup

theorem ofComponents_components (s : Structure) : ofComponents s.components = .ok s := by
  simp [ofComponents, s.nodup]

/-! ### Compatible structures -/

theorem isCompatibleWith_iff_perm : a.isCompatibleWith b ↔ a.components.Perm b.components := by
  simp only [isCompatibleWith, size, Bool.and_eq_true, beq_iff_eq, List.all_eq_true]
  constructor
  · rintro ⟨length, found⟩
    have nodup : a.components.Nodup := List.Nodup.of_map _ a.nodup
    have subset : a.components ⊆ b.components := fun c member =>
      (get?_eq_some_iff.mp (found c member)).1
    exact (nodup.subperm subset).perm_of_length_le (Nat.le_of_eq length.symm)
  · intro perm
    exact ⟨perm.length_eq, fun c member => get?_eq_some_iff.mpr ⟨perm.mem_iff.mp member, rfl⟩⟩

/-- Structures are compatible when they have one set of columns. -/
theorem isCompatibleWith_iff_mem :
    a.isCompatibleWith b ↔ ∀ c, c ∈ a.components ↔ c ∈ b.components := by
  rw [isCompatibleWith_iff_perm]
  exact List.perm_ext_iff_of_nodup (List.Nodup.of_map _ a.nodup) (List.Nodup.of_map _ b.nodup)

theorem isCompatibleWith_refl (s : Structure) : s.isCompatibleWith s :=
  isCompatibleWith_iff_perm.mpr (List.Perm.refl _)

theorem isCompatibleWith_symm (h : a.isCompatibleWith b) : b.isCompatibleWith a :=
  isCompatibleWith_iff_perm.mpr (isCompatibleWith_iff_perm.mp h).symm

theorem isCompatibleWith_trans {t : Structure} (h : a.isCompatibleWith b) (h' : b.isCompatibleWith t) :
    a.isCompatibleWith t :=
  isCompatibleWith_iff_perm.mpr
    ((isCompatibleWith_iff_perm.mp h).trans (isCompatibleWith_iff_perm.mp h'))

theorem get?_eq_of_isCompatibleWith (h : a.isCompatibleWith b) (name : String) :
    a.get? name = b.get? name := by
  have perm := isCompatibleWith_iff_perm.mp h
  apply Option.ext
  intro c
  rw [get?_eq_some_iff, get?_eq_some_iff, perm.mem_iff]

theorem mem_names_of_isCompatibleWith (h : a.isCompatibleWith b) : name ∈ a.names ↔ name ∈ b.names := by
  rw [mem_names_iff, mem_names_iff, get?_eq_of_isCompatibleWith h]

theorem scope_eq_of_isCompatibleWith (h : a.isCompatibleWith b) : a.scope = b.scope := by
  funext name
  simp only [scope, columnType?, get?_eq_of_isCompatibleWith h]

theorem eq_of_isCompatibleWith (h : a.isCompatibleWith b) (names : a.names = b.names) : a = b := by
  have perm := isCompatibleWith_iff_perm.mp h
  apply eq_of_components
  apply List.ext_getElem perm.length_eq
  intro i hi hj
  -- the columns at one place have one name, and the left one is a column of the right structure
  have same : a.components[i].name = b.components[i].name := by
    have at_i := congrArg (fun l => l[i]?) names
    simpa [Structure.names, hi, hj] using at_i
  exact eq_of_mem_of_name (s := b) (perm.mem_iff.mp (List.getElem_mem hi)) (List.getElem_mem hj) same

end DatasetScript.Structure
