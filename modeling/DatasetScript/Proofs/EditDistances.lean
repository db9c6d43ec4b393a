import DatasetScript.Number.Integer
import DatasetScript.Text.EditDistance
import Mathlib.Data.List.Basic
import Mathlib.Data.List.Induction
import Mathlib.Order.Bounds.Basic
/-!
# Edit distances

The distance of two texts is the least number of edits that turn one into the other. The computation
goes row by row, from distances to all prefixes of the second text to those for one character more of
the first. Edits come anywhere in a text and in any order; an alignment, which goes along both texts
from left to right, can do with no more of them. Main statement: `levenshtein_least_edits`.
-/

namespace DatasetScript

/-! ### Rows -/

/-- The cell for two characters, from the ones diagonally before, above and to the left. -/
def distanceCell (c d : Char) (diagonal above left : Nat) : Nat :=
  min (min (diagonal + if c = d then 0 else 1) (above + 1)) (left + 1)

section

variable (c d : Char) (diagonal above left : Nat)

theorem distanceCell_le_diagonal :
    distanceCell c d diagonal above left ≤ diagonal + if c = d then 0 else 1 :=
  (Nat.min_le_left _ _).trans (Nat.min_le_left _ _)

theorem distanceCell_le_above : distanceCell c d diagonal above left ≤ above + 1 :=
  (Nat.min_le_left _ _).trans (Nat.min_le_right _ _)

theorem distanceCell_le_left : distanceCell c d diagonal above left ≤ left + 1 :=
  Nat.min_le_right _ _

theorem distanceCell_choice :
    distanceCell c d diagonal above left = (diagonal + if c = d then 0 else 1) ∨
      distanceCell c d diagonal above left = above + 1 ∨
        distanceCell c d diagonal above left = left + 1 := by
  unfold distanceCell
  omega

end

theorem distanceCells_concat (c d : Char) (above : Nat) (b : List Char) (left diagonal : Nat)
    (cells : List Nat) (same : cells.length = b.length) :
    distanceCells c left diagonal (b ++ [d]) (cells ++ [above]) =
      distanceCells c left diagonal b cells ++ [distanceCell c d (cells.getLastD diagonal) above
        ((distanceCells c left diagonal b cells).getLastD left)] := by
  induction b generalizing left diagonal cells with
  | nil =>
    obtain rfl := List.length_eq_zero_iff.mp same
    rfl
  | cons e b ih =>
    cases cells with
    | nil => cases same
    | cons cell cells =>
      simp only [List.cons_append, distanceCells, List.getLastD_cons, ih _ _ cells (Nat.succ.inj same)]

theorem distanceCells_length (c : Char) (b : List Char) (left diagonal : Nat) (cells : List Nat)
    (same : cells.length = b.length) :
    (distanceCells c left diagonal b cells).length = b.length := by
  induction b generalizing left diagonal cells with
  | nil => cases cells <;> rfl
  | cons e b ih =>
    cases cells with
    | nil => cases same
    | cons cell cells => simp [distanceCells, ih _ _ cells (Nat.succ.inj same)]

theorem prefixDistances_concat (a b : List Char) (c : Char) :
    prefixDistances (a ++ [c]) b = nextDistances b (prefixDistances a b) c := by
  simp [prefixDistances]

theorem nextDistances_length {b : List Char} {row : List Nat} (same : row.length = b.length + 1)
    (c : Char) : (nextDistances b row c).length = b.length + 1 := by
  cases row with
  | nil => cases same
  | cons first cells =>
    exact congrArg (· + 1) (distanceCells_length c b _ _ cells (Nat.succ.inj same))

theorem prefixDistances_length (a b : List Char) :
    (prefixDistances a b).length = b.length + 1 := by
  induction a using List.reverseRecOn with
  | nil => exact List.length_range
  | append_singleton a c ih =>
    rw [prefixDistances_concat]
    exact nextDistances_length ih c

theorem nextDistances_concat {b : List Char} {row : List Nat} (same : row.length = b.length + 1)
    (c d : Char) (above : Nat) :
    nextDistances (b ++ [d]) (row ++ [above]) c = nextDistances b row c ++
      [distanceCell c d (row.getLastD 0) above ((nextDistances b row c).getLastD 0)] := by
  cases row with
  | nil => cases same
  | cons first cells =>
    have added := distanceCells_concat c d above b (first + 1) first cells (Nat.succ.inj same)
    simp only [nextDistances, List.cons_append, added, List.getLastD_cons]

/-- The row for a longer second text is the one for the shorter text with one distance more. -/
theorem prefixDistances_snoc (a b : List Char) (d : Char) :
    prefixDistances a (b ++ [d]) = prefixDistances a b ++ [levenshtein a (b ++ [d])] := by
  have longer : ∃ last, prefixDistances a (b ++ [d]) = prefixDistances a b ++ [last] := by
    induction a using List.reverseRecOn with
    | nil => exact ⟨b.length + 1, by simp [prefixDistances, List.range_succ]⟩
    | append_singleton a c ih =>
      obtain ⟨above, ih⟩ := ih
      rw [prefixDistances_concat, prefixDistances_concat, ih]
      exact ⟨_, nextDistances_concat (prefixDistances_length a b) c d above⟩
  obtain ⟨last, longer⟩ := longer
  rw [levenshtein, longer, List.getLastD_concat]

@[simp] theorem levenshtein_nil_left (b : List Char) : levenshtein [] b = b.length := by
  simp [levenshtein, prefixDistances, List.range_succ]

theorem prefixDistances_nil (a : List Char) : prefixDistances a [] = [a.length] := by
  induction a using List.reverseRecOn with
  | nil => rfl
  | append_singleton a c ih =>
    rw [prefixDistances_concat, ih, List.length_append]
    rfl

@[simp] theorem levenshtein_nil_right (a : List Char) : levenshtein a [] = a.length := by
  simp [levenshtein, prefixDistances_nil]

theorem levenshtein_concat (a b : List Char) (c d : Char) :
    levenshtein (a ++ [c]) (b ++ [d]) =
      distanceCell c d (levenshtein a b) (levenshtein a (b ++ [d])) (levenshtein (a ++ [c]) b) := by
  have row := nextDistances_concat (prefixDistances_length a b) c d (levenshtein a (b ++ [d]))
  rw [← prefixDistances_snoc, ← prefixDistances_concat, ← prefixDistances_concat] at row
  rw [levenshtein, row, List.getLastD_concat]
  rfl

/-! ### Edits -/

/-- One text comes from another by inserting, deleting or substituting a single character. -/
inductive Edit : List Char → List Char → Prop
  | insert (before after : List Char) (c : Char) : Edit (before ++ after) (before ++ c :: after)
  | delete (before after : List Char) (c : Char) : Edit (before ++ c :: after) (before ++ after)
  | substitute (before after : List Char) (c d : Char) :
    Edit (before ++ c :: after) (before ++ d :: after)

/-- One text comes from another by a number of edits, one after the other. -/
inductive Edits : Nat → List Char → List Char → Prop
  | none (a : List Char) : Edits 0 a a
  | next {n : Nat} {a b c : List Char} (first : Edit a b) (others : Edits n b c) :
    Edits (n + 1) a c

theorem Edit.symm {a b : List Char} (h : Edit a b) : Edit b a := by
  cases h with
  | insert before after c => exact .delete before after c
  | delete before after c => exact .insert before after c
  | substitute before after c d => exact .substitute before after d c

theorem Edit.append {a b : List Char} (h : Edit a b) (rest : List Char) :
    Edit (a ++ rest) (b ++ rest) := by
  cases h with
  | insert before after c => simpa using Edit.insert before (after ++ rest) c
  | delete before after c => simpa using Edit.delete before (after ++ rest) c
  | substitute before after c d => simpa using Edit.substitute before (after ++ rest) c d

namespace Edits

theorem one {a b : List Char} (h : Edit a b) : Edits 1 a b := .next h (.none b)

theorem trans {n m : Nat} {a b c : List Char} (first : Edits n a b) (second : Edits m b c) :
    Edits (n + m) a c := by
  induction first with
  | none a => simpa using second
  | next edit _ ih => simpa [Nat.add_right_comm] using Edits.next edit (ih second)

theorem symm {n : Nat} {a b : List Char} (h : Edits n a b) : Edits n b a := by
  induction h with
  | none a => exact .none a
  | next edit _ ih => exact ih.trans (one edit.symm)

theorem append {n : Nat} {a b : List Char} (h : Edits n a b) (rest : List Char) :
    Edits n (a ++ rest) (b ++ rest) := by
  induction h with
  | none a => exact .none _
  | next edit _ ih => exact .next (edit.append rest) ih

theorem zero_iff {a b : List Char} : Edits 0 a b ↔ a = b := by
  constructor
  · rintro ⟨⟩
    rfl
  · rintro rfl
    exact .none a

end Edits

/-! ### Alignments -/

/-- The characters of two texts side by side, each beside one of the other text or alone. Those that
stand alone and the pairs that differ are counted. -/
inductive Aligned : Nat → List Char → List Char → Prop
  | nil : Aligned 0 [] []
  | insert {n : Nat} {a b : List Char} (d : Char) (h : Aligned n a b) : Aligned (n + 1) a (b ++ [d])
  | delete {n : Nat} {a b : List Char} (c : Char) (h : Aligned n a b) : Aligned (n + 1) (a ++ [c]) b
  | pair {n : Nat} {a b : List Char} (c d : Char) (h : Aligned n a b) :
    Aligned (n + if c = d then 0 else 1) (a ++ [c]) (b ++ [d])

namespace Aligned

theorem edits {n : Nat} {a b : List Char} (h : Aligned n a b) : Edits n a b := by
  induction h with
  | nil => exact .none []
  | @insert n a b d h ih => exact ih.trans (.one (by simpa using Edit.insert b [] d))
  | @delete n a b c h ih =>
    exact (ih.append [c]).trans (.one (by simpa using Edit.delete b [] c))
  | @pair n a b c d h ih =>
    by_cases same : c = d
    · subst same
      simpa using ih.append [c]
    · rw [if_neg same]
      exact (ih.append [c]).trans (.one (Edit.substitute b [] c d))

theorem insertAll (b : List Char) : Aligned b.length [] b := by
  induction b using List.reverseRecOn with
  | nil => exact .nil
  | append_singleton b d ih => simpa using ih.insert d

theorem deleteAll (a : List Char) : Aligned a.length a [] := by
  induction a using List.reverseRecOn with
  | nil => exact .nil
  | append_singleton a c ih => simpa using ih.delete c

theorem append {n m : Nat} {a b a' b' : List Char} (first : Aligned n a b)
    (second : Aligned m a' b') : Aligned (n + m) (a ++ a') (b ++ b') := by
  induction second with
  | nil => simpa using first
  | insert d _ ih => simpa [Nat.add_assoc] using ih.insert d
  | delete c _ ih => simpa [Nat.add_assoc] using ih.delete c
  | pair c d _ ih => simpa [Nat.add_assoc] using ih.pair c d

theorem length_le {n : Nat} {a b : List Char} (h : Aligned n a b) : b.length ≤ a.length + n := by
  induction h with
  | nil => simp
  | insert d h ih => simp; omega
  | delete c h ih => simp; omega
  | pair c d h ih => simp; omega

/-- An alignment of a text in two parts is one of each part. -/
theorem split {n : Nat} {a a' b : List Char} (h : Aligned n (a ++ a') b) :
    ∃ m m' c c', n = m + m' ∧ b = c ++ c' ∧ Aligned m a c ∧ Aligned m' a' c' := by
  generalize whole : a ++ a' = x at h
  induction h generalizing a' with
  | nil =>
    obtain ⟨rfl, rfl⟩ := List.append_eq_nil_iff.mp whole
    exact ⟨0, 0, [], [], rfl, rfl, .nil, .nil⟩
  | insert d h ih =>
    obtain ⟨m, m', c, c', rfl, rfl, first, second⟩ := ih whole
    exact ⟨m, m' + 1, c, c' ++ [d], by omega, by simp, first, second.insert d⟩
  | @delete n x b e h ih =>
    rcases List.eq_nil_or_concat' a' with rfl | ⟨y, f, rfl⟩
    · rw [List.append_nil] at whole
      exact ⟨n + 1, 0, b, [], rfl, by simp, whole ▸ h.delete e, .nil⟩
    · obtain ⟨rfl, same⟩ := List.append_inj' ((List.append_assoc a y [f]).trans whole) rfl
      obtain ⟨m, m', c, c', rfl, rfl, first, second⟩ := ih rfl
      exact ⟨m, m' + 1, c, c', by omega, rfl, first, second.delete f⟩
  | @pair n x b e d h ih =>
    rcases List.eq_nil_or_concat' a' with rfl | ⟨y, f, rfl⟩
    · rw [List.append_nil] at whole
      exact ⟨_, 0, b ++ [d], [], rfl, by simp, whole ▸ h.pair e d, .nil⟩
    · obtain ⟨rfl, same⟩ := List.append_inj' ((List.append_assoc a y [f]).trans whole) rfl
      obtain rfl := List.singleton_inj.mp same
      obtain ⟨m, m', c, c', rfl, rfl, first, second⟩ := ih rfl
      exact ⟨m, _, c, c' ++ [d], Nat.add_assoc .., by simp, first, second.pair f d⟩

theorem singleton_of_singleton {n : Nat} {c : Char} {b : List Char} (h : Aligned n [c] b) (d : Char) :
    ∃ k ≤ n + 1, Aligned k [d] b := by
  have short := h.length_le
  cases b with
  | nil => exact ⟨1, by omega, deleteAll [d]⟩
  | cons e b =>
    refine ⟨_, ?_, (pair d e nil).append (insertAll b)⟩
    simp only [List.length_cons, List.length_nil] at short
    split <;> omega

/-- An edit of the first text costs an alignment at most one. -/
theorem of_edit {n : Nat} {a b c : List Char} (edit : Edit a b) (h : Aligned n b c) :
    ∃ k ≤ n + 1, Aligned k a c := by
  cases edit with
  | insert before after d =>
    obtain ⟨m, rest, c, c', rfl, rfl, first, others⟩ := h.split
    obtain ⟨m', m'', d', e', rfl, rfl, alone, last⟩ := others.split (a := [d])
    have short := alone.length_le
    refine ⟨m + (d'.length + m''), ?_, first.append ((insertAll d').append last)⟩
    simp only [List.length_cons, List.length_nil] at short
    omega
  | delete before after d =>
    obtain ⟨m, m', c, c', rfl, rfl, first, last⟩ := h.split
    exact ⟨m + (1 + m'), by omega, first.append ((deleteAll [d]).append last)⟩
  | substitute before after d e =>
    obtain ⟨m, rest, c, c', rfl, rfl, first, others⟩ := h.split
    obtain ⟨m', m'', d', e', rfl, rfl, alone, last⟩ := others.split (a := [e])
    obtain ⟨k, small, other⟩ := alone.singleton_of_singleton d
    exact ⟨m + (k + m''), by omega, first.append (other.append last)⟩

theorem refl (a : List Char) : Aligned 0 a a := by
  induction a using List.reverseRecOn with
  | nil => exact .nil
  | append_singleton a c ih => simpa using ih.pair c c

/-- A sequence of edits can be read as an alignment that counts no more. -/
theorem of_edits {n : Nat} {a b : List Char} (h : Edits n a b) : ∃ k ≤ n, Aligned k a b := by
  induction h with
  | none a => exact ⟨0, le_rfl, refl a⟩
  | next edit _ ih =>
    obtain ⟨m, small, aligned⟩ := ih
    obtain ⟨k, smaller, aligned⟩ := of_edit edit aligned
    exact ⟨k, by omega, aligned⟩

end Aligned

/-! ### The distance as a least count -/

theorem levenshtein_insert_le (a b : List Char) (d : Char) :
    levenshtein a (b ++ [d]) ≤ levenshtein a b + 1 := by
  induction a using List.reverseRecOn with
  | nil => simp
  | append_singleton a c _ =>
    rw [levenshtein_concat]
    exact distanceCell_le_left ..

theorem levenshtein_delete_le (a b : List Char) (c : Char) :
    levenshtein (a ++ [c]) b ≤ levenshtein a b + 1 := by
  induction b using List.reverseRecOn with
  | nil => simp
  | append_singleton b d _ =>
    rw [levenshtein_concat]
    exact distanceCell_le_above ..

theorem levenshtein_pair_le (a b : List Char) (c d : Char) :
    levenshtein (a ++ [c]) (b ++ [d]) ≤ levenshtein a b + if c = d then 0 else 1 := by
  rw [levenshtein_concat]
  exact distanceCell_le_diagonal ..

theorem Aligned.levenshtein_le {n : Nat} {a b : List Char} (h : Aligned n a b) :
    levenshtein a b ≤ n := by
  induction h with
  | nil => exact Nat.le_refl 0
  | insert d h ih => exact (levenshtein_insert_le _ _ d).trans (Nat.succ_le_succ ih)
  | delete c h ih => exact (levenshtein_delete_le _ _ c).trans (Nat.succ_le_succ ih)
  | pair c d h ih => exact (levenshtein_pair_le _ _ c d).trans (Nat.add_le_add_right ih _)

theorem aligned_levenshtein (a b : List Char) : Aligned (levenshtein a b) a b := by
  induction a using List.reverseRecOn generalizing b with
  | nil => simpa using Aligned.insertAll b
  | append_singleton a c outer =>
    induction b using List.reverseRecOn with
    | nil => simpa using Aligned.deleteAll (a ++ [c])
    | append_singleton b d inner =>
      rw [levenshtein_concat]
      rcases distanceCell_choice c d (levenshtein a b) (levenshtein a (b ++ [d]))
        (levenshtein (a ++ [c]) b) with diagonal | above | left
      · exact diagonal ▸ (outer b).pair c d
      · exact above ▸ (outer (b ++ [d])).delete c
      · exact left ▸ inner.insert d

theorem levenshtein_isLeast (a b : List Char) : IsLeast {n | Edits n a b} (levenshtein a b) := by
  refine ⟨(aligned_levenshtein a b).edits, fun n edits => ?_⟩
  obtain ⟨k, small, aligned⟩ := Aligned.of_edits edits
  exact aligned.levenshtein_le.trans small

theorem levenshtein_comm (a b : List Char) : levenshtein a b = levenshtein b a := by
  have reversed : {n | Edits n a b} = {n | Edits n b a} := Set.ext fun n => ⟨.symm, .symm⟩
  exact (levenshtein_isLeast a b).unique (reversed ▸ levenshtein_isLeast b a)

theorem levenshtein_le_max (a b : List Char) : levenshtein a b ≤ max a.length b.length := by
  induction a using List.reverseRecOn generalizing b with
  | nil => simp
  | append_singleton a c ih =>
    rcases List.eq_nil_or_concat' b with rfl | ⟨b, d, rfl⟩
    · simp
    · have shorter := ih b
      have paired := levenshtein_pair_le a b c d
      simp only [List.length_append, List.length_singleton]
      split at paired <;> omega

/-- The distance of two texts is the least number of edits from one to the other. So it is a metric, and
no distance exceeds the greater length; it is an exact 64-bit integer if the lengths are. -/
theorem levenshtein_least_edits (a b : List Char) :
    IsLeast {n | Edits n a b} (levenshtein a b) ∧ levenshtein a b = levenshtein b a ∧
      (levenshtein a b = 0 ↔ a = b) ∧ levenshtein a b ≤ max a.length b.length ∧
      (∀ c, levenshtein a c ≤ levenshtein a b + levenshtein b c) ∧
      (FitsInt64 (max a.length b.length) → (Int64.ofNat (levenshtein a b)).toInt = levenshtein a b) := by
  have least := levenshtein_isLeast a b
  have short := levenshtein_le_max a b
  refine ⟨least, levenshtein_comm a b, ⟨fun zero => ?_, ?_⟩, short, fun c => ?_, fun fits => ?_⟩
  · exact Edits.zero_iff.mp (zero ▸ least.1)
  · rintro rfl
    exact Nat.le_zero.mp (least.2 (.none a))
  · exact (levenshtein_isLeast a c).2 (least.1.trans (levenshtein_isLeast b c).1)
  · exact Int64.toInt_ofNat_of_lt (by omega)

theorem kitten_sitting : FitsInt64 (max "kitten".toList.length "sitting".toList.length) ∧
    (Int64.ofNat (levenshtein "kitten".toList "sitting".toList)).toInt = 3 := by
  have fits : FitsInt64 (max "kitten".toList.length "sitting".toList.length) := by decide
  have distance : levenshtein "kitten".toList "sitting".toList = 3 := by decide
  exact ⟨fits, (levenshtein_least_edits _ _).2.2.2.2.2 fits |>.trans (by rw [distance]; rfl)⟩

end DatasetScript
