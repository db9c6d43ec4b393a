import DatasetScript.Checking.TextFunctions
import DatasetScript.Number.Integer
import Mathlib.Data.Nat.Nth
import Mathlib.Data.Set.Card
/-!
# Positions in texts

Cutting and locating count characters alike. Locating lists the occurrences of a pattern from a start
on, in increasing order, and takes one of them by its number; a pattern occurs where cutting as many
characters as it has gives the pattern, so occurrences may overlap. Main statement:
`locate_agrees_with_cut`.
-/

namespace DatasetScript

/-! ### Occurrences -/

theorem mem_occurrences {pattern s : List Char} {first r : Nat} :
    r ∈ occurrences pattern first s ↔
      first ≤ r ∧ r < first + s.length ∧ pattern <+: s.drop (r - first) := by
  induction s generalizing first with
  | nil =>
    refine iff_of_false List.not_mem_nil fun ⟨low, high, _⟩ => ?_
    exact Nat.not_lt.mpr low high
  | cons c rest ih =>
    have here : r ∈ occurrences pattern first (c :: rest) ↔
        (r = first ∧ pattern <+: c :: rest) ∨ r ∈ occurrences pattern (first + 1) rest := by
      rw [occurrences, ← List.isPrefixOf_iff_prefix]
      split <;> simp [*]
    rw [here, ih]
    constructor
    · rintro (⟨rfl, found⟩ | ⟨low, high, found⟩)
      · simpa using found
      · obtain ⟨k, rfl⟩ := Nat.exists_eq_add_of_le low
        refine ⟨by omega, by simp only [List.length_cons]; omega, ?_⟩
        rwa [show first + 1 + k - first = (first + 1 + k - (first + 1)) + 1 by omega,
          List.drop_succ_cons]
    · rintro ⟨low, high, found⟩
      rcases Nat.eq_or_lt_of_le low with rfl | later
      · exact .inl ⟨rfl, by simpa using found⟩
      · refine .inr ⟨later, by simp only [List.length_cons] at high; omega, ?_⟩
        rwa [show r - first = (r - (first + 1)) + 1 by omega, List.drop_succ_cons] at found

theorem occurrences_increasing (pattern s : List Char) (first : Nat) :
    (occurrences pattern first s).Pairwise (· < ·) := by
  induction s generalizing first with
  | nil => exact .nil
  | cons c rest ih =>
    rw [occurrences]
    split
    · exact List.pairwise_cons.mpr ⟨fun r later => (mem_occurrences.mp later).1, ih (first + 1)⟩
    · exact ih (first + 1)

/-- A list in increasing order holds the least numbers with a property first. -/
theorem nth_of_increasing {p : Nat → Prop} {list : List Nat} (increasing : list.Pairwise (· < ·))
    (all : ∀ r, p r ↔ r ∈ list) (k : Nat) : Nat.nth p k = list[k]?.getD 0 := by
  have finite : (Set.ofPred p).Finite := list.finite_toSet.subset fun r => (all r).mp
  have members : finite.toFinset = list.toFinset := Finset.ext fun r => by
    rw [Set.Finite.mem_toFinset, List.mem_toFinset]
    exact all r
  have sorted : finite.toFinset.sort (· ≤ ·) = list := by
    rw [members]
    exact (List.toFinset_sort _ (increasing.imp Nat.ne_of_lt)).mpr (increasing.imp Nat.le_of_lt)
  rw [Nat.nth_eq_getD_sort finite, sorted, List.getD_eq_getElem?_getD]

theorem encard_of_increasing {p : Nat → Prop} {list : List Nat} (increasing : list.Pairwise (· < ·))
    (all : ∀ r, p r ↔ r ∈ list) : {r | p r}.encard = list.length := by
  have members : {r | p r} = (list.toFinset : Set Nat) := Set.ext fun r => by
    rw [Set.mem_ofPred_eq, all, List.coe_toFinset]
    rfl
  rw [members, Set.encard_coe_eq_coe_finsetCard,
    List.toFinset_card_of_nodup (increasing.imp Nat.ne_of_lt)]

/-! ### Cutting at positions -/

theorem charsBefore_add_one (start : Int) : (charsBefore start + 1 : Int) = max start 1 := by
  unfold charsBefore
  omega

theorem substr_eq_iff_begins {s pattern : List Char} {r : Nat} (positive : 1 ≤ r) :
    substr s r pattern.length = pattern ↔ pattern <+: s.drop (r - 1) := by
  have before : charsBefore r = r - 1 := by
    have := charsBefore_add_one r
    omega
  rw [substr, before, List.prefix_iff_eq_take, eq_comm]

/-- A position, not before the start, at which cutting as many characters as a pattern has gives the
pattern. -/
def FoundAt (s pattern : List Char) (start : Int) (r : Nat) : Prop :=
  max start 1 ≤ r ∧ substr s r pattern.length = pattern

def occurrencesFrom (s pattern : List Char) (start : Int) : List Nat :=
  occurrences pattern (charsBefore start + 1) (s.drop (charsBefore start))

theorem occurrencesFrom_increasing (s pattern : List Char) (start : Int) :
    (occurrencesFrom s pattern start).Pairwise (· < ·) := occurrences_increasing ..

section

variable {s pattern : List Char} {start : Int} {r : Nat}

theorem mem_occurrencesFrom : r ∈ occurrencesFrom s pattern start ↔
    max start 1 ≤ r ∧ r ≤ s.length ∧ pattern <+: s.drop (r - 1) := by
  have before := charsBefore_add_one start
  rw [occurrencesFrom, mem_occurrences, List.drop_drop, List.length_drop]
  by_cases low : charsBefore start + 1 ≤ r
  · rw [show charsBefore start + (r - (charsBefore start + 1)) = r - 1 by omega]
    constructor
    · rintro ⟨-, high, found⟩
      exact ⟨by omega, by omega, found⟩
    · rintro ⟨-, high, found⟩
      exact ⟨low, by omega, found⟩
  · exact iff_of_false (fun h => low h.1) (by omega)

theorem foundAt_iff (given : pattern ≠ []) :
    FoundAt s pattern start r ↔ r ∈ occurrencesFrom s pattern start := by
  rw [mem_occurrencesFrom, FoundAt]
  constructor
  · rintro ⟨low, cut⟩
    have found := (substr_eq_iff_begins (by omega)).mp cut
    -- a pattern with characters is not found past the end
    have room := found.length_le
    rw [List.length_drop] at room
    have some_char := List.length_pos_iff.mpr given
    exact ⟨low, by omega, found⟩
  · rintro ⟨low, -, found⟩
    exact ⟨low, (substr_eq_iff_begins (by omega)).mpr found⟩

theorem instr_eq (given : pattern ≠ []) (n : Nat) :
    instr s pattern start n = (occurrencesFrom s pattern start)[n - 1]?.getD 0 := if_neg given

theorem instr_eq_nth (given : pattern ≠ []) (n : Nat) :
    instr s pattern start n = Nat.nth (FoundAt s pattern start) (n - 1) := by
  rw [instr_eq given,
    nth_of_increasing (occurrencesFrom_increasing s pattern start)
      fun r => foundAt_iff given]

theorem instr_eq_zero_iff (given : pattern ≠ []) {n : Nat} (positive : 1 ≤ n) :
    instr s pattern start n = 0 ↔ {r | FoundAt s pattern start r}.encard < n := by
  rw [instr_eq given,
    encard_of_increasing (occurrencesFrom_increasing s pattern start)
      fun r => foundAt_iff given, Nat.cast_lt]
  cases found : (occurrencesFrom s pattern start)[n - 1]? with
  | none =>
    have beyond := List.getElem?_eq_none_iff.mp found
    exact iff_of_true rfl (by omega)
  | some r =>
    have low := (mem_occurrencesFrom.mp (List.mem_of_getElem? found)).1
    obtain ⟨inside, -⟩ := List.getElem?_eq_some_iff.mp found
    exact iff_of_false (show r ≠ 0 by omega) (by omega)

end

theorem instr_le_length {s pattern : List Char} (given : pattern ≠ []) (start : Int) (n : Nat) :
    instr s pattern start n ≤ s.length := by
  rw [instr_eq given]
  cases found : (occurrencesFrom s pattern start)[n - 1]? with
  | none => exact Nat.zero_le _
  | some r => exact (mem_occurrencesFrom.mp (List.mem_of_getElem? found)).2.1

/-! ### Runs of characters -/

/-- The characters stand one after the other in a text, the first of them at a position. -/
def RunAt (s : List Char) (position : Int) (run : List Char) : Prop :=
  ∃ before after, s = before ++ run ++ after ∧ (before.length + 1 : Int) = position

theorem runAt_iff {s run : List Char} {k : Nat} (inside : k ≤ s.length) :
    RunAt s (k + 1) run ↔ run <+: s.drop k := by
  constructor
  · rintro ⟨before, after, rfl, same⟩
    obtain rfl : before.length = k := by omega
    simp
  · rintro ⟨after, rest⟩
    refine ⟨s.take k, after, ?_, by simp [inside]⟩
    rw [List.append_assoc, rest, List.take_append_drop]

/-- A run from a position on that no longer one of at most as many characters starts at. -/
structure LongestRun (s : List Char) (position : Int) (length : Nat) (run : List Char) : Prop where
  stands : RunAt s position run
  short : run.length ≤ length
  longest : ∀ other, RunAt s position other → other.length ≤ length → other.length ≤ run.length

theorem substr_longest {s : List Char} {start : Int} (length : Nat) (inside : max start 1 ≤ s.length) :
    LongestRun s (max start 1) length (substr s start length) := by
  have position := charsBefore_add_one start
  have within : charsBefore start ≤ s.length := by omega
  rw [← position]
  refine ⟨(runAt_iff within).mpr (List.take_prefix _ _), List.length_take_le _ _, ?_⟩
  intro other found short
  have fits := ((runAt_iff within).mp found).length_le
  rw [substr, List.length_take]
  exact Nat.le_min.mpr ⟨short, fits⟩

theorem substr_past_end {s : List Char} {start : Int} (length : Nat) (past : s.length < max start 1) :
    substr s start length = [] := by
  have position := charsBefore_add_one start
  rw [substr, List.drop_eq_nil_of_le (by omega), List.take_nil]

namespace Checking

theorem cut_ok (s : String) (start : Int64) {length : Int64} (nonnegative : 0 ≤ length.toInt) :
    cut s start length = .ok (String.ofList (substr s.toList start.toInt length.toInt.toNat)) :=
  if_neg (Int.not_lt.mpr nonnegative)

theorem locateText_ok (s pattern : String) (start : Int64) {n : Int64} (positive : 1 ≤ n.toInt) :
    locateText s pattern start n =
      .ok (.ofNat (instr s.toList pattern.toList start.toInt n.toInt.toNat)) :=
  if_neg (Int.not_lt.mpr positive)

/-! ### Main statement -/

/-- Locating a pattern gives the position of an occurrence by its number among all positions at which
cutting gives the pattern, or zero if there are fewer; it is an exact 64-bit integer if the length of the
text is. Cutting gives the longest run from a position on, and nothing past the end. -/
theorem locate_agrees_with_cut (s pattern : String) (given : pattern ≠ "") (start : Int64) {n : Int64}
    (positive : 1 ≤ n.toInt) :
    (∃ r : Nat, locateText s pattern start n = .ok (.ofNat r) ∧
      r = Nat.nth (FoundAt s.toList pattern.toList start.toInt) (n.toInt.toNat - 1) ∧
      (r = 0 ↔ {q | FoundAt s.toList pattern.toList start.toInt q}.encard < n.toInt.toNat) ∧
      (FitsInt64 s.length → (Int64.ofNat r).toInt = r)) ∧
    ∀ i m : Int64, 0 ≤ m.toInt → ∃ run, run = substr s.toList i.toInt m.toInt.toNat ∧
      cut s i m = .ok (String.ofList run) ∧
      (max i.toInt 1 ≤ s.length → LongestRun s.toList (max i.toInt 1) m.toInt.toNat run) ∧
      (s.length < max i.toInt 1 → run = []) := by
  have some_char : pattern.toList ≠ [] := fun empty => given (String.toList_eq_nil_iff.mp empty)
  refine ⟨⟨_, locateText_ok s pattern start positive, instr_eq_nth some_char _,
    instr_eq_zero_iff some_char (by omega), fun fits => ?_⟩, fun i m nonnegative =>
      ⟨_, rfl, cut_ok s i nonnegative, fun inside => ?_, fun past => ?_⟩⟩
  · have short := instr_le_length (s := s.toList) some_char start.toInt n.toInt.toNat
    rw [String.length_toList] at short
    exact Int64.toInt_ofNat_of_lt (by omega)
  · exact substr_longest _ (by rwa [String.length_toList])
  · exact substr_past_end _ (by rwa [String.length_toList])

theorem second_overlap_located :
    "éé" ≠ "" ∧ 1 ≤ (2 : Int64).toInt ∧ FitsInt64 "ééé".length ∧
      locateText "ééé" "éé" (-5) 2 = .ok 2 ∧ Nat.nth (FoundAt "ééé".toList "éé".toList (-5)) 1 = 2 ∧
      0 ≤ (7 : Int64).toInt ∧ cut "ééé" 2 7 = .ok "éé" ∧
      LongestRun "ééé".toList 2 7 "éé".toList := by
  have given : "éé" ≠ "" := by decide
  obtain ⟨⟨r, located, nth, -, exact⟩, cuts⟩ :=
    locate_agrees_with_cut "ééé" "éé" given (-5) (n := 2) (by decide)
  obtain ⟨run, taken, made, longest, -⟩ := cuts 2 7 (by decide)
  have second : locateText "ééé" "éé" (-5) 2 = .ok 2 := by decide
  have fits : FitsInt64 "ééé".length := by decide
  have two : r = 2 := by
    have same : Int64.ofNat r = 2 := Except.ok.inj (located.symm.trans second)
    have value := exact fits
    rw [same] at value
    exact Int.ofNat_inj.mp value.symm
  obtain rfl : run = "éé".toList := taken.trans (by decide)
  exact ⟨given, by decide, fits, second, nth.symm.trans two, by decide, made, longest (by decide)⟩

end Checking

end DatasetScript
