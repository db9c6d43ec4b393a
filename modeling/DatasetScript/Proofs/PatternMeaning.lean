import DatasetScript.Pattern.Regex
import Mathlib.Logic.Relation
/-!
# The meaning of patterns

An expression spans two places of a text if what stands between them matches it, which is said here
without regard to how matches are searched for. Main statement: `Regex.repetition_of_widthless`, by which
an expression without characters need not be repeated more than once.
-/

namespace DatasetScript

/-! ### Repeated relations -/

/-- So many steps of a relation in a row. -/
def Repeated {α : Type} (R : α → α → Prop) : Nat → α → α → Prop
  | 0 => Eq
  | n + 1 => Relation.Comp R (Repeated R n)

namespace Repeated

variable {α : Type} {R : α → α → Prop}

theorem add (m n : Nat) : Repeated R (m + n) = Relation.Comp (Repeated R m) (Repeated R n) := by
  induction m with
  | zero => rw [Nat.zero_add, Repeated, Relation.eq_comp]
  | succ m ih => rw [Nat.add_right_comm, Repeated, ih, Repeated, Relation.comp_assoc]

theorem one : Repeated R 1 = R := Relation.comp_eq

theorem succ (n : Nat) : Repeated R (n + 1) = Relation.Comp (Repeated R n) R := by
  rw [add, one]

/-- A relation under which nothing moves does so when repeated. -/
theorem eq_of_still (still : ∀ i j, R i j → i = j) {n : Nat} {i j : α} (h : Repeated R n i j) :
    i = j := by
  induction n generalizing i with
  | zero => exact h
  | succ n ih =>
    obtain ⟨k, first, later⟩ := h
    exact (still i k first).trans (ih later)

theorem still_iff (still : ∀ i j, R i j → i = j) {n : Nat} (positive : n ≠ 0) {i j : α} :
    Repeated R n i j ↔ R i j := by
  obtain ⟨n, rfl⟩ := Nat.exists_eq_add_one_of_ne_zero positive
  constructor
  · rintro ⟨k, first, later⟩
    rwa [← eq_of_still still later]
  · intro h
    obtain rfl := still i j h
    induction n with
    | zero => exact ⟨i, h, rfl⟩
    | succ n ih => exact ⟨i, h, ih (Nat.succ_ne_zero n)⟩

end Repeated

/-! ### Spans -/

namespace Regex

/-- The character before a place. -/
def charBefore (text : Array Char) (i : Nat) : Option Char := if i = 0 then none else text[i - 1]?

mutual

/-- What stands between two places of a text matches an expression. -/
def Spans (text : Array Char) : Regex → Nat → Nat → Prop
  | .empty => Eq
  | .literal c folding => fun i j => ∃ d, text[i]? = some d ∧ c ∈ folding.variants d ∧ j = i + 1
  | .set s => fun i j => ∃ d, text[i]? = some d ∧ s.contains d = true ∧ j = i + 1
  | .assertion a => fun i j => a.holds (charBefore text i) text[i]? = true ∧ i = j
  | .repetition least most _ body => fun i j =>
    ∃ n, least ≤ n ∧ (∀ m ∈ most, n ≤ m) ∧ Repeated (body.Spans text) n i j
  | .group _ body => body.Spans text
  | .concat parts => SpansAll text parts
  | .alternation branches => SpansAny text branches

/-- The parts match one after the other. -/
def SpansAll (text : Array Char) : List Regex → Nat → Nat → Prop
  | [] => Eq
  | r :: rest => Relation.Comp (r.Spans text) (SpansAll text rest)

def SpansAny (text : Array Char) : List Regex → Nat → Nat → Prop
  | [] => fun _ _ => False
  | r :: rest => fun i j => r.Spans text i j ∨ SpansAny text rest i j

end

variable {text : Array Char}

theorem lt_size_of_getElem? {i : Nat} {d : Char} (found : text[i]? = some d) : i < text.size :=
  (Array.getElem?_eq_some_iff.mp found).1

theorem repeated_within {R : Nat → Nat → Prop} {size : Nat}
    (step : ∀ i j, R i j → i ≤ size → i ≤ j ∧ j ≤ size) {n i j : Nat} (h : Repeated R n i j)
    (inside : i ≤ size) : i ≤ j ∧ j ≤ size := by
  induction n generalizing i with
  | zero =>
    obtain rfl : i = j := h
    exact ⟨Nat.le_refl i, inside⟩
  | succ n ih =>
    obtain ⟨k, first, later⟩ := h
    obtain ⟨low, high⟩ := step i k first inside
    obtain ⟨low', high'⟩ := ih later high
    exact ⟨Nat.le_trans low low', high'⟩

mutual

/-- Matching goes forward and does not leave the text. -/
theorem Spans.within : ∀ {r : Regex} {i j : Nat}, r.Spans text i j → i ≤ text.size →
    i ≤ j ∧ j ≤ text.size
  | .empty, i, j, h, inside => by
    cases h
    exact ⟨Nat.le_refl i, inside⟩
  | .literal _ _, i, _, ⟨_, found, _, same⟩, _ => by
    have := lt_size_of_getElem? found
    omega
  | .set _, i, _, ⟨_, found, _, same⟩, _ => by
    have := lt_size_of_getElem? found
    omega
  | .assertion _, i, j, ⟨_, same⟩, inside => by omega
  | .repetition _ _ _ body, _, _, ⟨_, _, _, repeated⟩, inside =>
    repeated_within (fun _ _ => Spans.within (r := body)) repeated inside
  | .group _ body, _, _, h, inside => Spans.within (r := body) h inside
  | .concat parts, _, _, h, inside => SpansAll.within (show SpansAll text parts _ _ from h) inside
  | .alternation branches, _, _, h, inside =>
    SpansAny.within (show SpansAny text branches _ _ from h) inside

theorem SpansAll.within : ∀ {parts : List Regex} {i j : Nat}, SpansAll text parts i j →
    i ≤ text.size → i ≤ j ∧ j ≤ text.size
  | [], i, _, rfl, inside => ⟨Nat.le_refl i, inside⟩
  | _ :: _, _, _, ⟨_, first, later⟩, inside =>
    have here := Spans.within first inside
    have there := SpansAll.within later here.2
    ⟨Nat.le_trans here.1 there.1, there.2⟩

theorem SpansAny.within : ∀ {branches : List Regex} {i j : Nat}, SpansAny text branches i j →
    i ≤ text.size → i ≤ j ∧ j ≤ text.size
  | _ :: _, _, _, .inl first, inside => Spans.within first inside
  | _ :: _, _, _, .inr later, inside => SpansAny.within later inside

end

/-! ### Expressions without characters -/

mutual

theorem Spans.eq_of_widthless : ∀ {r : Regex}, r.isWidthless = true → ∀ {i j : Nat},
    r.Spans text i j → i = j
  | .empty, _, _, _, h => h
  | .assertion _, _, _, _, ⟨_, same⟩ => same
  | .repetition _ most _ body, widthless, _, _, ⟨n, _, upper, repeated⟩ => by
    rw [isWidthless, Bool.or_eq_true] at widthless
    rcases widthless with never | widthless
    · obtain rfl : n = 0 := Nat.le_zero.mp (upper 0 (by simpa using never))
      exact repeated
    · exact repeated.eq_of_still fun _ _ => Spans.eq_of_widthless widthless
  | .group _ body, widthless, _, _, h => Spans.eq_of_widthless (r := body) widthless h
  | .concat parts, widthless, _, _, h =>
    SpansAll.eq_of_widthless widthless (show SpansAll text parts _ _ from h)
  | .alternation branches, widthless, _, _, h =>
    SpansAny.eq_of_widthless widthless (show SpansAny text branches _ _ from h)

theorem SpansAll.eq_of_widthless : ∀ {parts : List Regex}, allWidthless parts = true →
    ∀ {i j : Nat}, SpansAll text parts i j → i = j
  | [], _, _, _, h => h
  | _ :: _, widthless, _, _, ⟨_, first, later⟩ =>
    have both := Bool.and_eq_true_iff.mp widthless
    (Spans.eq_of_widthless both.1 first).trans (SpansAll.eq_of_widthless both.2 later)

theorem SpansAny.eq_of_widthless : ∀ {branches : List Regex}, allWidthless branches = true →
    ∀ {i j : Nat}, SpansAny text branches i j → i = j
  | _ :: _, widthless, _, _, .inl first =>
    Spans.eq_of_widthless (Bool.and_eq_true_iff.mp widthless).1 first
  | _ :: _, widthless, _, _, .inr later =>
    SpansAny.eq_of_widthless (Bool.and_eq_true_iff.mp widthless).2 later

end

/-- An expression without characters matches as often as it may if it matches once. -/
theorem repetition_of_widthless {body : Regex} (widthless : body.isWidthless = true) {least : Nat}
    {most : Option Nat} (ordered : ∀ m ∈ most, least ≤ m) (greedy : Bool) :
    (repetition (min least 1) (some (min (most.getD 1) 1)) greedy body).Spans text =
      (repetition least most greedy body).Spans text := by
  have still : ∀ i j, body.Spans text i j → i = j := fun _ _ => Spans.eq_of_widthless widthless
  funext i j
  refine propext ⟨?_, ?_⟩
  · rintro ⟨n, low, high, repeated⟩
    have high := high _ rfl
    rcases Nat.eq_zero_or_pos n with rfl | positive
    · exact ⟨0, by omega, fun m _ => Nat.zero_le m, repeated⟩
    · have once := (Repeated.still_iff still (Nat.ne_of_gt positive)).mp repeated
      refine ⟨max least 1, by omega, ?_, (Repeated.still_iff still (by omega)).mpr once⟩
      rintro m bound
      have least_le := ordered m bound
      rw [Option.mem_def.mp bound, Option.getD_some] at high
      omega
  · rintro ⟨n, low, high, repeated⟩
    rcases Nat.eq_zero_or_pos n with rfl | positive
    · refine ⟨0, by omega, fun m _ => Nat.zero_le m, repeated⟩
    · have once := (Repeated.still_iff still (Nat.ne_of_gt positive)).mp repeated
      refine ⟨1, by omega, ?_, (Repeated.still_iff still (by omega)).mpr once⟩
      rintro m bound
      cases Option.mem_some.mp bound
      cases most with
      | none => exact Nat.le_refl 1
      | some m =>
        have := high m rfl
        rw [Option.getD_some]
        omega

/-! ### Well-formed expressions -/

mutual

/-- The bounds of repetitions are in order, and there are branches to choose from. -/
def WellFormed : Regex → Prop
  | .empty | .literal _ _ | .set _ | .assertion _ => True
  | .repetition least most _ body => (∀ m ∈ most, least ≤ m) ∧ body.WellFormed
  | .group _ body => body.WellFormed
  | .concat parts => AllWellFormed parts
  | .alternation branches => branches ≠ [] ∧ AllWellFormed branches

def AllWellFormed : List Regex → Prop
  | [] => True
  | r :: rest => r.WellFormed ∧ AllWellFormed rest

end

theorem allWellFormed_iff {rs : List Regex} : AllWellFormed rs ↔ ∀ r ∈ rs, r.WellFormed := by
  induction rs with
  | nil => simp [AllWellFormed]
  | cons r rs ih => rw [AllWellFormed, List.forall_mem_cons, ih]

end Regex

end DatasetScript
