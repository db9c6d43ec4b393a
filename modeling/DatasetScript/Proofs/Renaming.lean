import DatasetScript.Proofs.Layout
/-!
# Simultaneous renaming

All renames of a clause happen at once, so names may be swapped, moved around in a circle or handed
on. Main statement: `rename_simultaneous` says when a renaming is accepted, what it changes, and that
the inverse renaming undoes it.
-/

namespace DatasetScript

/-- The name of a column after all renames. -/
def renamed (renames : List (String × String)) (name : String) : String :=
  (Assoc.find? renames name).getD name

/-- Every rename the other way round. -/
def inverseRenames (renames : List (String × String)) : List (String × String) :=
  renames.map Prod.swap

/-- Every source is a column, and no two columns have one name in the end. -/
structure Renamable (s : Structure) (renames : List (String × String)) : Prop where
  sources : ∀ source ∈ Assoc.names renames, source ∈ s.names
  nodup : (s.names.map (renamed renames)).Nodup

section

variable {renames : List (String × String)} {s : Structure} {name source target : String}

/-! ### Names -/

theorem renamed_of_mem (distinct : (Assoc.names renames).Nodup) (member : (source, target) ∈ renames) :
    renamed renames source = target := by
  rw [renamed, (Assoc.find?_eq_some_iff distinct).mpr member, Option.getD_some]

theorem renamed_of_notMem (absent : name ∉ Assoc.names renames) : renamed renames name = name := by
  rw [renamed, (Assoc.find?_eq_none_iff renames name).mpr absent, Option.getD_none]

theorem Renamable.injective (ok : Renamable s renames) {other : String} (known : name ∈ s.names)
    (known' : other ∈ s.names) (same : renamed renames name = renamed renames other) : name = other :=
  List.inj_on_of_nodup_map ok.nodup known known' same

theorem source_known (ok : Renamable s renames) (member : (source, target) ∈ renames) :
    source ∈ s.names :=
  ok.sources source (List.mem_map_of_mem (f := Prod.fst) member)

/-- A column whose name is taken over is renamed itself. -/
theorem target_renamed (distinct : (Assoc.names renames).Nodup) (ok : Renamable s renames)
    (member : (source, target) ∈ renames) (known : target ∈ s.names) :
    target ∈ Assoc.names renames := by
  by_contra kept
  have same : renamed renames source = renamed renames target := by
    rw [renamed_of_mem distinct member, renamed_of_notMem kept]
  have own := ok.injective (source_known ok member) known same
  exact kept (own ▸ List.mem_map_of_mem (f := Prod.fst) member)

/-! ### What is checked -/

theorem checkRenames_ok_iff {all : List (String × String)} :
    Query.checkRenames s all renames = .ok () ↔ ∀ entry ∈ renames,
      entry.1 ∈ s.names ∧ (entry.2 ∈ s.names → entry.2 ∈ Assoc.names all) := by
  induction renames with
  | nil => simp [Query.checkRenames]
  | cons entry rest ih =>
    obtain ⟨source, target⟩ := entry
    have taken : (s.contains target && (Assoc.find? all target).isNone) = true ↔
        target ∈ s.names ∧ target ∉ Assoc.names all := by
      rw [Bool.and_eq_true, Structure.contains_iff, Option.isNone_iff_eq_none,
        Assoc.find?_eq_none_iff]
    unfold Query.checkRenames
    rw [List.forall_mem_cons]
    split
    · rename_i unknown
      refine ⟨nofun, fun ⟨⟨known, _⟩, _⟩ => ?_⟩
      simp [Structure.contains_iff.mpr known] at unknown
    · rename_i known
      have known : source ∈ s.names := Structure.contains_iff.mp (by simpa using known)
      split
      · rename_i onto
        obtain ⟨there, stays⟩ := taken.mp onto
        exact ⟨nofun, fun ⟨⟨_, moved⟩, _⟩ => (stays (moved there)).elim⟩
      · rename_i free
        have moved : target ∈ s.names → target ∈ Assoc.names all := fun there =>
          not_not.mp fun stays => free (taken.mpr ⟨there, stays⟩)
        rw [ih]
        exact ⟨fun later => ⟨⟨known, moved⟩, later⟩, And.right⟩

/-- The columns of a structure under their new names. -/
def renamedColumns (renames : List (String × String)) (s : Structure) : List Component :=
  s.components.map fun c => c.rename (renamed renames c.name)

theorem renamedColumns_names :
    (renamedColumns renames s).map Component.name = s.names.map (renamed renames) := by
  unfold renamedColumns Structure.names
  rw [List.map_map, List.map_map]
  rfl

end

section

variable {renames : List (String × String)} {input q : Query}

theorem rename_columns (h : input.rename renames = .ok q) :
    q.layout.components = renamedColumns renames input.layout :=
  (Query.rename_made h).2.1

theorem rename_of_renamable (distinct : (Assoc.names renames).Nodup)
    (ok : Renamable input.layout renames) : ∃ q, input.rename renames = .ok q := by
  have checked : Query.checkRenames input.layout renames renames = .ok () :=
    checkRenames_ok_iff.mpr fun entry member =>
      ⟨source_known ok member, target_renamed distinct ok member⟩
  have nodup : ((renamedColumns renames input.layout).map Component.name).Nodup := by
    rw [renamedColumns_names]
    exact ok.nodup
  have made := Structure.ofComponents_of_nodup nodup
  unfold renamedColumns renamed at made
  unfold Query.rename
  rw [checked, ok_bind, made]
  exact ⟨_, rfl⟩

theorem renamable_of_ok (h : input.rename renames = .ok q) : Renamable input.layout renames := by
  obtain ⟨checked, -⟩ := Query.rename_made h
  refine ⟨fun source member => ?_, ?_⟩
  · obtain ⟨entry, here, rfl⟩ := List.mem_map.mp member
    exact (checkRenames_ok_iff.mp checked entry here).1
  · rw [← renamedColumns_names, ← rename_columns h]
    exact q.layout.nodup

theorem relabel_relabel (s t : Structure) (d : Dataset) : (d.relabel s).relabel t = d.relabel t := by
  simp [Dataset.relabel]

theorem rename_run {env : Env} (h : input.rename renames = .ok q) (bound : input.BoundIn env) :
    q.run env = (input.run env).map (Dataset.relabel q.layout) := by
  obtain ⟨-, columns, steps⟩ := Query.rename_made h
  have width : input.layout.size = q.layout.size := by
    rw [Structure.size, Structure.size, columns, List.length_map]
  rw [steps]
  cases given : input.run env with
  | error e => rfl
  | ok d =>
    obtain ⟨own, tabular⟩ := bound d given
    rw [ok_bind, layRows_relabel tabular (own ▸ width)]
    rfl

end

/-! ### Undoing a renaming -/

section

variable {renames : List (String × String)} {s t : Structure} {name : String}

theorem names_inverse : Assoc.names (inverseRenames renames) = renames.map Prod.snd := by
  unfold Assoc.names inverseRenames
  rw [List.map_map]
  rfl

/-- No two renames have one target. -/
theorem inverse_distinct (distinct : (Assoc.names renames).Nodup) (ok : Renamable s renames) :
    (Assoc.names (inverseRenames renames)).Nodup := by
  have targets : renames.map Prod.snd = (Assoc.names renames).map (renamed renames) := by
    rw [Assoc.names, List.map_map]
    exact List.map_congr_left fun entry member => (renamed_of_mem distinct member).symm
  rw [names_inverse, targets]
  exact distinct.map_on fun source member other member' =>
    ok.injective (ok.sources source member) (ok.sources other member')

/-- The inverse renames give each column its old name. -/
theorem renamed_inverse (distinct : (Assoc.names renames).Nodup) (ok : Renamable s renames)
    (known : name ∈ s.names) : renamed (inverseRenames renames) (renamed renames name) = name := by
  by_cases moved : name ∈ Assoc.names renames
  · obtain ⟨⟨source, target⟩, member, rfl⟩ := List.mem_map.mp moved
    rw [renamed_of_mem distinct member]
    exact renamed_of_mem (inverse_distinct distinct ok) (List.mem_map_of_mem (f := Prod.swap) member)
  · rw [renamed_of_notMem moved]
    refine renamed_of_notMem fun onto => ?_
    rw [names_inverse] at onto
    obtain ⟨⟨source, target⟩, member, rfl⟩ := List.mem_map.mp onto
    exact moved (target_renamed distinct ok member known)

theorem inverse_renamable (distinct : (Assoc.names renames).Nodup) (ok : Renamable s renames)
    (columns : t.components = renamedColumns renames s) : Renamable t (inverseRenames renames) := by
  have names : t.names = s.names.map (renamed renames) := by
    rw [Structure.names, columns, renamedColumns_names]
  refine ⟨fun target member => ?_, ?_⟩
  · rw [names_inverse] at member
    obtain ⟨⟨source, target⟩, here, rfl⟩ := List.mem_map.mp member
    rw [names]
    exact List.mem_map.mpr ⟨source, source_known ok here, renamed_of_mem distinct here⟩
  · have back : t.names.map (renamed (inverseRenames renames)) = s.names := by
      rw [names, List.map_map]
      exact (List.map_congr_left fun name known => renamed_inverse distinct ok known).trans
        (List.map_id _)
    rw [back]
    exact s.nodup

theorem renamedColumns_inverse (distinct : (Assoc.names renames).Nodup) (ok : Renamable s renames)
    (columns : t.components = renamedColumns renames s) :
    renamedColumns (inverseRenames renames) t = s.components := by
  unfold renamedColumns at columns ⊢
  rw [columns, List.map_map]
  refine (List.map_congr_left fun c member => ?_).trans (List.map_id _)
  have back := renamed_inverse distinct ok (List.mem_map_of_mem (f := Component.name) member)
  simp only [Function.comp_apply, Component.rename, back]
  rfl

end

/-- A renaming of distinct columns is accepted exactly if all of them are there and no two columns
have one name after it. It changes nothing but the names of columns, and the inverse renaming of the
result gives back the structure and the rows. -/
theorem rename_simultaneous {input : Query} {renames : List (String × String)}
    (distinct : (Assoc.names renames).Nodup) :
    ((∃ q, input.rename renames = .ok q) ↔ Renamable input.layout renames) ∧
      ∀ q, input.rename renames = .ok q →
        q.layout.components = renamedColumns renames input.layout ∧
        ∃ back, q.rename (inverseRenames renames) = .ok back ∧ back.layout = input.layout ∧
          ∀ env, input.BoundIn env →
            q.run env = (input.run env).map (Dataset.relabel q.layout) ∧
            back.run env = input.run env := by
  refine ⟨⟨fun ⟨q, h⟩ => renamable_of_ok h, rename_of_renamable distinct⟩, fun q h => ?_⟩
  have ok := renamable_of_ok h
  have columns := rename_columns h
  obtain ⟨back, undone⟩ := rename_of_renamable (inverse_distinct distinct ok)
    (inverse_renamable distinct ok columns)
  have layout : back.layout = input.layout := by
    refine Structure.eq_of_components ?_
    rw [rename_columns undone, renamedColumns_inverse distinct ok columns]
  refine ⟨columns, back, undone, layout, fun env bound => ?_⟩
  have run := rename_run h bound
  refine ⟨run, ?_⟩
  rw [rename_run undone ((Query.rename_laysRows h).boundIn env), run, layout]
  cases given : input.run env with
  | error e => rfl
  | ok d =>
    obtain ⟨own, tabular⟩ := bound d given
    change Except.ok ((d.relabel q.layout).relabel input.layout) = _
    rw [relabel_relabel, ← own, relabel_self tabular]

namespace Moves

def places : Structure :=
  ⟨[⟨"from", .string, .identifier⟩, ⟨"to", .string, .identifier⟩, ⟨"old", .integer, .measure⟩,
    ⟨"new", .integer, .measure⟩, ⟨"note", .string, .attr⟩], by decide⟩

def moves : Dataset :=
  ⟨places, [⟨places, [.string "A", .string "B", .integer 1, .integer 2, .null]⟩]⟩

/-- Two names swapped, a name handed on from column to column, and one that stays. -/
def renames : List (String × String) :=
  [("from", "to"), ("to", "from"), ("old", "before"), ("new", "old"), ("note", "note")]

end Moves

open Moves in
theorem moves_renamed_and_back :
    Renamable places renames ∧
      ∃ q back, (Query.constant moves).rename renames = .ok q ∧
        q.layout.names = ["to", "from", "before", "old", "note"] ∧
        (Query.constant moves).BoundIn (fun _ => none) ∧
        q.run (fun _ => none) = .ok (moves.relabel q.layout) ∧
        q.rename (inverseRenames renames) = .ok back ∧ back.layout = places ∧
        back.run (fun _ => none) = .ok moves := by
  have distinct : (Assoc.names renames).Nodup := by decide
  have bound : (Query.constant moves).BoundIn fun _ => none := by
    rintro d ⟨⟩
    exact ⟨rfl, List.forall_mem_singleton.mpr ⟨rfl, rfl⟩⟩
  have ok : Renamable places renames := ⟨by decide, by decide⟩
  obtain ⟨accepted, undone⟩ := @rename_simultaneous (.constant moves) _ distinct
  obtain ⟨q, h⟩ := accepted.mpr ok
  obtain ⟨columns, back, inverse, layout, runs⟩ := undone q h
  obtain ⟨run, runBack⟩ := runs (fun _ => none) bound
  have names : q.layout.names = ["to", "from", "before", "old", "note"] := by
    rw [Structure.names, columns]
    decide
  exact ⟨ok, q, back, h, names, bound, run, inverse, layout, runBack⟩

end DatasetScript
