import DatasetScript.Pattern.Search
import DatasetScript.Proofs.PatternMeaning
/-!
# Programs of patterns

A part of a graph implements a relation between places if, whatever steps come behind, a way through the
part to those steps exists just between related places. Main statement: `Regex.implements`, by which the
program of an expression implements its spans.
-/

namespace DatasetScript

variable {text : Array Char}

/-! ### Ways to a success -/

/-- The pairs of steps and places that lead on from a step at a place. -/
def successors (text : Array Char) (place : Nat) (s : Step) : List (Nat × Nat) :=
  (PatternProgram.follow text ⟨0, place, []⟩ s).map fun w => (w.step, w.place)

/-- A success can be reached from a step at a place, in so many steps. -/
inductive Graph.Accepts (text : Array Char) (g : Graph) : Nat → Nat → Nat → Prop where
  | done {step place : Nat} (here : g[step]? = some .accept) : Accepts text g 0 step place
  | onward {n step place next k : Nat} {s : Step} (here : g[step]? = some s)
    (leads : (next, k) ∈ successors text place s) (later : Accepts text g n next k) :
    Accepts text g (n + 1) step place

namespace Graph

theorem accepts_iff {g : Graph} {n step place : Nat} {s : Step} (here : g[step]? = some s)
    (going : s ≠ .accept) : Accepts text g n step place ↔
      ∃ m, n = m + 1 ∧ ∃ next k, (next, k) ∈ successors text place s ∧ Accepts text g m next k := by
  constructor
  · intro h
    cases h with
    | done accept => exact absurd (Option.some.inj (here.symm.trans accept)) going
    | onward here' leads later =>
      cases Option.some.inj (here.symm.trans here')
      exact ⟨_, rfl, _, _, leads, later⟩
  · rintro ⟨m, rfl, next, k, leads, later⟩
    exact .onward here leads later

/-! ### Parts of graphs -/

/-- A graph with further steps behind. -/
def Extends (g g' : Graph) : Prop := g.size ≤ g'.size ∧ ∀ k < g.size, g'[k]? = g[k]?

theorem Extends.refl (g : Graph) : Extends g g := ⟨Nat.le_refl _, fun _ _ => rfl⟩

theorem Extends.trans {g₁ g₂ g₃ : Graph} (first : Extends g₁ g₂) (second : Extends g₂ g₃) :
    Extends g₁ g₃ :=
  ⟨Nat.le_trans first.1 second.1, fun k inside =>
    (second.2 k (Nat.lt_of_lt_of_le inside first.1)).trans (first.2 k inside)⟩

theorem extends_push (g : Graph) (s : Step) : Extends g (g.push s) := by
  refine ⟨by rw [Array.size_push]; omega, fun k inside => ?_⟩
  rw [Array.getElem?_push, if_neg (by omega)]

/-- The steps by which a graph extends another stand in a third one. -/
def Holds (g g' G : Graph) : Prop := ∀ k, g.size ≤ k → k < g'.size → G[k]? = g'[k]?

theorem Holds.first {g₁ g₂ g₃ G : Graph} (second : Extends g₂ g₃) (holds : Holds g₁ g₃ G) :
    Holds g₁ g₂ G := fun k low high =>
  (holds k low (Nat.lt_of_lt_of_le high second.1)).trans (second.2 k high)

theorem Holds.second {g₁ g₂ g₃ G : Graph} (first : Extends g₁ g₂) (holds : Holds g₁ g₃ G) :
    Holds g₂ g₃ G := fun k low high => holds k (Nat.le_trans first.1 low) high

theorem Holds.push {g G : Graph} {s : Step} (holds : Holds g (g.push s) G) : G[g.size]? = some s := by
  rw [holds g.size (Nat.le_refl _) (by rw [Array.size_push]; omega), Array.getElem?_push, if_pos rfl]

/-- Every way to a success enters a part at its entry and leaves it in a related place, and the other way
round. A way that leaves is not longer. -/
structure Implements (text : Array Char) (build : Nat → Graph → Nat × Graph)
    (R : Nat → Nat → Prop) : Prop where
  grows : ∀ next g, Extends g (build next g).2
  enters : ∀ next g G, Holds g (build next g).2 G → ∀ i j n, R i j → Accepts text G n next j →
    ∃ m, Accepts text G m (build next g).1 i
  leaves : ∀ next g G, Holds g (build next g).2 G → ∀ i n, Accepts text G n (build next g).1 i →
    ∃ j m, m ≤ n ∧ R i j ∧ Accepts text G m next j

namespace Implements

variable {build first second : Nat → Graph → Nat × Graph} {R S : Nat → Nat → Prop}

theorem skip : Implements text (fun next g => (next, g)) Eq where
  grows _ g := .refl g
  enters _ _ _ _ _ _ n same accepts := ⟨n, same ▸ accepts⟩
  leaves _ _ _ _ i n accepts := ⟨i, n, Nat.le_refl n, rfl, accepts⟩

theorem step {s : Nat → Step} (going : ∀ next, s next ≠ .accept)
    (leads : ∀ next i q k, (q, k) ∈ successors text i (s next) ↔ q = next ∧ R i k) :
    Implements text (fun next g => g.add (s next)) R where
  grows _ g := extends_push g _
  enters next g G holds i j n related accepts :=
    ⟨n + 1, .onward holds.push ((leads next i next j).mpr ⟨rfl, related⟩) accepts⟩
  leaves next g G holds i n accepts := by
    obtain ⟨m, rfl, q, k, onward, later⟩ := (accepts_iff holds.push (going next)).mp accepts
    obtain ⟨rfl, related⟩ := (leads next i q k).mp onward
    exact ⟨k, m, Nat.le_succ m, related, later⟩

theorem comp (before : Implements text first R) (after : Implements text second S) :
    Implements text (fun next g => first (second next g).1 (second next g).2) (Relation.Comp R S) where
  grows next g := (after.grows next g).trans (before.grows ..)
  enters next g G holds i j n related accepts := by
    obtain ⟨k, left, right⟩ := related
    obtain ⟨m, accepts⟩ := after.enters next g G (holds.first (before.grows ..)) k j n right accepts
    exact before.enters _ _ G (holds.second (after.grows next g)) i k m left accepts
  leaves next g G holds i n accepts := by
    obtain ⟨k, m, less, left, accepts⟩ :=
      before.leaves _ _ G (holds.second (after.grows next g)) i n accepts
    obtain ⟨j, l, less', right, accepts⟩ :=
      after.leaves next g G (holds.first (before.grows ..)) k m accepts
    exact ⟨j, l, Nat.le_trans less' less, ⟨k, left, right⟩, accepts⟩

theorem congr (h : Implements text build R) (same : ∀ i j, R i j ↔ S i j) : Implements text build S := by
  obtain rfl : R = S := funext fun i => funext fun j => propext (same i j)
  exact h

end Implements

/-! ### Forks -/

theorem mem_successors_fork {place next k a b : Nat} :
    (next, k) ∈ successors text place (.fork a b) ↔ (next = a ∨ next = b) ∧ k = place := by
  simp only [successors, PatternProgram.follow, List.map_cons, List.map_nil, List.mem_cons,
    Prod.mk.injEq, List.not_mem_nil, or_false]
  exact or_and_right.symm

theorem accepts_fork_iff {G : Graph} {n step place a b : Nat} (here : G[step]? = some (.fork a b)) :
    Accepts text G n step place ↔
      ∃ m, n = m + 1 ∧ (Accepts text G m a place ∨ Accepts text G m b place) := by
  rw [accepts_iff here nofun]
  refine exists_congr fun m => and_congr_right fun _ => ?_
  constructor
  · rintro ⟨next, k, leads, later⟩
    obtain ⟨rfl | rfl, rfl⟩ := mem_successors_fork.mp leads
    · exact .inl later
    · exact .inr later
  · rintro (later | later)
    · exact ⟨a, place, mem_successors_fork.mpr ⟨.inl rfl, rfl⟩, later⟩
    · exact ⟨b, place, mem_successors_fork.mpr ⟨.inr rfl, rfl⟩, later⟩

/-- Whether a fork is greedy decides on the order of its ways only. -/
theorem accepts_fork {G : Graph} {greedy : Bool} {n step place onward exit : Nat}
    (here : G[step]? = some (fork greedy onward exit)) :
    Accepts text G n step place ↔
      ∃ m, n = m + 1 ∧ (Accepts text G m onward place ∨ Accepts text G m exit place) := by
  cases greedy with
  | true => exact accepts_fork_iff here
  | false =>
    rw [accepts_fork_iff here]
    exact exists_congr fun m => and_congr_right fun _ => or_comm

namespace Implements

variable {first second body : Nat → Graph → Nat × Graph} {R S : Nat → Nat → Prop}

theorem either (left : Implements text first R) (right : Implements text second S) :
    Implements text (fun next g =>
      let (other, g) := second next g
      let (entry, g) := first next g
      g.add (.fork entry other)) fun i j => R i j ∨ S i j where
  grows next g := ((right.grows next g).trans (left.grows ..)).trans (extends_push ..)
  enters next g G holds i j n related accepts := by
    have parts := holds.first (extends_push ..)
    have here : G[(first next (second next g).2).2.size]? = some (.fork _ _) :=
      (holds.second ((right.grows next g).trans (left.grows ..))).push
    rcases related with related | related
    · obtain ⟨m, accepts⟩ := left.enters _ _ G (parts.second (right.grows next g)) i j n related accepts
      exact ⟨m + 1, (accepts_fork_iff here).mpr ⟨m, rfl, .inl accepts⟩⟩
    · obtain ⟨m, accepts⟩ := right.enters _ _ G (parts.first (left.grows ..)) i j n related accepts
      exact ⟨m + 1, (accepts_fork_iff here).mpr ⟨m, rfl, .inr accepts⟩⟩
  leaves next g G holds i n accepts := by
    have parts := holds.first (extends_push ..)
    have here : G[(first next (second next g).2).2.size]? = some (.fork _ _) :=
      (holds.second ((right.grows next g).trans (left.grows ..))).push
    obtain ⟨m, rfl, accepts | accepts⟩ := (accepts_fork_iff here).mp accepts
    · obtain ⟨j, l, less, related, accepts⟩ :=
        left.leaves _ _ G (parts.second (right.grows next g)) i m accepts
      exact ⟨j, l, Nat.le_succ_of_le less, .inl related, accepts⟩
    · obtain ⟨j, l, less, related, accepts⟩ :=
        right.leaves _ _ G (parts.first (left.grows ..)) i m accepts
      exact ⟨j, l, Nat.le_succ_of_le less, .inr related, accepts⟩

/-- A part that may be skipped. -/
theorem optionally (h : Implements text body R) (greedy : Bool) :
    Implements text (fun next g =>
      let (entry, g) := body next g
      g.add (fork greedy entry next)) fun i j => R i j ∨ i = j where
  grows next g := (h.grows next g).trans (extends_push ..)
  enters next g G holds i j n related accepts := by
    have here : G[(body next g).2.size]? = some (fork greedy _ _) := (holds.second (h.grows next g)).push
    rcases related with related | rfl
    · obtain ⟨m, accepts⟩ :=
        h.enters next g G (holds.first (extends_push ..)) i j n related accepts
      exact ⟨m + 1, (accepts_fork here).mpr ⟨m, rfl, .inl accepts⟩⟩
    · exact ⟨n + 1, (accepts_fork here).mpr ⟨n, rfl, .inr accepts⟩⟩
  leaves next g G holds i n accepts := by
    have here : G[(body next g).2.size]? = some (fork greedy _ _) := (holds.second (h.grows next g)).push
    obtain ⟨m, rfl, accepts | accepts⟩ := (accepts_fork here).mp accepts
    · obtain ⟨j, l, less, related, accepts⟩ :=
        h.leaves next g G (holds.first (extends_push ..)) i m accepts
      exact ⟨j, l, Nat.le_succ_of_le less, .inl related, accepts⟩
    · exact ⟨i, m, Nat.le_succ m, .inr rfl, accepts⟩

end Implements

/-! ### Loops -/

section Loops

variable {body : Nat → Graph → Nat × Graph} {R : Nat → Nat → Prop} {greedy : Bool} {next : Nat}
  {g G : Graph}

/-- Where the expression of a loop begins. -/
def loopFirst (body : Nat → Graph → Nat × Graph) (g : Graph) : Nat := (body g.size (g.push .accept)).1

/-- A graph with a loop behind, in which a fork leads back to the expression. -/
def looped (body : Nat → Graph → Nat × Graph) (greedy : Bool) (next : Nat) (g : Graph) : Graph :=
  (body g.size (g.push .accept)).2.set! g.size (fork greedy (loopFirst body g) next)

theorem looped_getElem? (k : Nat) : (looped body greedy next g)[k]? =
    if g.size = k then
      if g.size < (body g.size (g.push .accept)).2.size then some (fork greedy (loopFirst body g) next)
      else none
    else (body g.size (g.push .accept)).2[k]? := by
  rw [looped, Array.set!_eq_setIfInBounds, Array.getElem?_setIfInBounds]

theorem looped_size : (looped body greedy next g).size = (body g.size (g.push .accept)).2.size := by
  rw [looped, Array.set!_eq_setIfInBounds, Array.size_setIfInBounds]

theorem size_lt_of_extends_push {g' : Graph} {s : Step} (grown : Extends (g.push s) g') :
    g.size < g'.size := by
  have := grown.1
  rw [Array.size_push] at this
  omega

theorem looped_extends (h : Implements text body R) : Extends g (looped body greedy next g) := by
  have grown := h.grows g.size (g.push .accept)
  refine ⟨looped_size ▸ Nat.le_of_lt (size_lt_of_extends_push grown), fun k inside => ?_⟩
  rw [looped_getElem?, if_neg (Nat.ne_of_gt inside)]
  exact ((extends_push g .accept).trans grown).2 k inside

theorem looped_back (h : Implements text body R) (holds : Holds g (looped body greedy next g) G) :
    G[g.size]? = some (fork greedy (loopFirst body g) next) := by
  have inside := size_lt_of_extends_push (h.grows g.size (g.push .accept))
  rw [holds g.size (Nat.le_refl _) (looped_size ▸ inside), looped_getElem?, if_pos rfl, if_pos inside]

theorem looped_body (holds : Holds g (looped body greedy next g) G) :
    Holds (g.push .accept) (body g.size (g.push .accept)).2 G := by
  intro k low high
  rw [Array.size_push] at low
  rw [holds k (by omega) (looped_size ▸ high), looped_getElem?, if_neg (by omega)]

/-- A way that goes round leads to the fork. -/
theorem accepts_back (h : Implements text body R) (holds : Holds g (looped body greedy next g) G)
    {i j n c : Nat} (related : Repeated R c i j) (accepts : Accepts text G n next j) :
    ∃ m, Accepts text G m g.size i := by
  have back := looped_back h holds
  induction c generalizing i with
  | zero =>
    obtain rfl : i = j := related
    exact ⟨n + 1, (accepts_fork back).mpr ⟨n, rfl, .inr accepts⟩⟩
  | succ c ih =>
    obtain ⟨k, round, later⟩ := related
    obtain ⟨l, accepts⟩ := ih later
    obtain ⟨m, accepts⟩ := h.enters _ _ G (looped_body holds) i k l round accepts
    exact ⟨m + 1, (accepts_fork back).mpr ⟨m, rfl, .inl accepts⟩⟩

/-- From the fork a way goes round, in fewer steps than are left, or exits. -/
theorem back_accepts (h : Implements text body R) (holds : Holds g (looped body greedy next g) G)
    {i n : Nat} (accepts : Accepts text G n g.size i) :
    ∃ j m, m ≤ n ∧ (∃ c, Repeated R c i j) ∧ Accepts text G m next j := by
  induction n using Nat.strongRecOn generalizing i with
  | ind n ih =>
    obtain ⟨m, rfl, round | exit⟩ := (accepts_fork (looped_back h holds)).mp accepts
    · obtain ⟨k, l, less, first, accepts⟩ := h.leaves _ _ G (looped_body holds) i m round
      obtain ⟨j, m', less', ⟨c, later⟩, accepts⟩ := ih l (by omega) accepts
      exact ⟨j, m', by omega, ⟨c + 1, k, first, later⟩, accepts⟩
    · exact ⟨i, m, Nat.le_succ m, ⟨0, rfl⟩, exit⟩

end Loops

namespace Implements

variable {body : Nat → Graph → Nat × Graph} {R : Nat → Nat → Prop}

/-- A loop entered at the expression goes round once at least. -/
theorem loop (h : Implements text body R) (greedy : Bool) :
    Implements text (addLoop body greedy) fun i j => ∃ c, Repeated R (c + 1) i j where
  grows next g := looped_extends h
  enters next g G holds i j n related accepts := by
    obtain ⟨c, k, first, later⟩ := related
    obtain ⟨m, accepts⟩ := accepts_back h holds later accepts
    exact h.enters _ _ G (looped_body holds) i k m first accepts
  leaves next g G holds i n accepts := by
    obtain ⟨k, l, less, first, accepts⟩ := h.leaves _ _ G (looped_body holds) i n accepts
    obtain ⟨j, m, less', ⟨c, later⟩, accepts⟩ := back_accepts h holds accepts
    exact ⟨j, m, Nat.le_trans less' less, ⟨c, k, first, later⟩, accepts⟩

/-- A loop entered at the fork. -/
theorem loopAtFork (h : Implements text body R) (greedy : Bool) :
    Implements text (fun next g => (g.size, looped body greedy next g))
      fun i j => ∃ c, Repeated R c i j where
  grows next g := looped_extends h
  enters next g G holds i j n related accepts := by
    obtain ⟨c, related⟩ := related
    exact accepts_back h holds related accepts
  leaves next g G holds i n accepts := back_accepts h holds accepts

theorem star (h : Implements text body R) (nullable greedy : Bool) :
    Implements text (addStar body nullable greedy) fun i j => ∃ c, Repeated R c i j := by
  cases nullable with
  | false => exact h.loopAtFork greedy
  | true =>
    refine ((h.loop greedy).optionally greedy).congr fun i j => ?_
    constructor
    · rintro (⟨c, related⟩ | rfl)
      · exact ⟨c + 1, related⟩
      · exact ⟨0, rfl⟩
    · rintro ⟨c, related⟩
      cases c with
      | zero => exact .inr related
      | succ c => exact .inl ⟨c, related⟩

theorem copies (h : Implements text body R) (count : Nat) :
    Implements text (fun next g => addCopies body next g count) (Repeated R count) := by
  induction count with
  | zero => exact .skip
  | succ count ih =>
    rw [Repeated.succ]
    exact ih.comp h

/-- The last of the copies that may be skipped is added in front of the others. -/
theorem addOptional_succ (body : Nat → Graph → Nat × Graph) (greedy : Bool) (exit next : Nat) (g : Graph)
    (count : Nat) : addOptional body greedy exit next g (count + 1) =
      (let (entry, g) := addOptional body greedy exit next g count
      let (first, g) := body entry g
      g.add (fork greedy first exit)) := by
  induction count generalizing next g with
  | zero => rfl
  | succ count ih => exact ih ..

theorem optional (h : Implements text body R) (greedy : Bool) (count : Nat) :
    Implements text (fun next g => addOptional body greedy next next g count)
      fun i j => ∃ c ≤ count, Repeated R c i j := by
  induction count with
  | zero =>
    refine skip.congr fun i j => ⟨fun same => ⟨0, Nat.le_refl 0, same⟩, ?_⟩
    rintro ⟨c, none, related⟩
    obtain rfl := Nat.le_zero.mp none
    exact related
  | succ count ih =>
    simp only [addOptional_succ]
    refine ((h.comp ih).optionally greedy).congr fun i j => ?_
    constructor
    · rintro (⟨k, first, c, short, later⟩ | rfl)
      · exact ⟨c + 1, Nat.succ_le_succ short, k, first, later⟩
      · exact ⟨0, Nat.zero_le _, rfl⟩
    · rintro ⟨c, short, related⟩
      cases c with
      | zero => exact .inr related
      | succ c =>
        obtain ⟨k, first, later⟩ := related
        exact .inl ⟨k, first, c, Nat.le_of_succ_le_succ short, later⟩

theorem addRepetition_most (body : Nat → Graph → Nat × Graph) (nullable greedy : Bool) (least most : Nat) :
    addRepetition body nullable greedy least (some most) = fun next g =>
      let (entry, g) := addOptional body greedy next next g (most - least)
      addCopies body entry g least := by
  cases least <;> rfl

theorem repetition (h : Implements text body R) (nullable greedy : Bool) {least : Nat} {most : Option Nat}
    (ordered : ∀ m ∈ most, least ≤ m) :
    Implements text (addRepetition body nullable greedy least most)
      fun i j => ∃ n, least ≤ n ∧ (∀ m ∈ most, n ≤ m) ∧ Repeated R n i j := by
  cases most with
  | none =>
    cases least with
    | zero =>
      refine (h.star nullable greedy).congr fun i j => ?_
      simp
    | succ least =>
      refine ((h.copies least).comp (h.loop greedy)).congr fun i j => ?_
      constructor
      · rintro ⟨k, first, c, later⟩
        refine ⟨least + (c + 1), by omega, nofun, ?_⟩
        rw [Repeated.add]
        exact ⟨k, first, later⟩
      · rintro ⟨n, low, -, related⟩
        obtain ⟨c, rfl⟩ := Nat.exists_eq_add_of_le low
        rw [Nat.add_assoc, Nat.add_comm 1, Repeated.add] at related
        obtain ⟨k, first, later⟩ := related
        exact ⟨k, first, c, later⟩
  | some most =>
    have ordered := ordered most rfl
    rw [addRepetition_most]
    refine ((h.copies least).comp (h.optional greedy (most - least))).congr fun i j => ?_
    constructor
    · rintro ⟨k, first, c, short, later⟩
      refine ⟨least + c, by omega, ?_, ?_⟩
      · rintro _ ⟨⟩
        omega
      · rw [Repeated.add]
        exact ⟨k, first, later⟩
    · rintro ⟨n, low, high, related⟩
      have high := high most rfl
      obtain ⟨c, rfl⟩ := Nat.exists_eq_add_of_le low
      rw [Repeated.add] at related
      obtain ⟨k, first, later⟩ := related
      exact ⟨k, first, c, by omega, later⟩

end Implements

end Graph

/-! ### Programs of expressions -/

theorem mem_successors_literal {c : Char} {folding : Folding} {next i q k : Nat} :
    (q, k) ∈ successors text i (.literal c folding next) ↔
      q = next ∧ ∃ d, text[i]? = some d ∧ c ∈ folding.variants d ∧ k = i + 1 := by
  simp only [successors, PatternProgram.follow]
  cases text[i]? with
  | none => simp
  | some d =>
    by_cases same : c ∈ folding.variants d <;> simp [same]

theorem mem_successors_set {s : CharSet} {next i q k : Nat} :
    (q, k) ∈ successors text i (.set s next) ↔
      q = next ∧ ∃ d, text[i]? = some d ∧ s.contains d = true ∧ k = i + 1 := by
  simp only [successors, PatternProgram.follow]
  cases text[i]? with
  | none => simp
  | some d =>
    by_cases inside : s.contains d = true <;> simp [inside]

theorem mem_successors_assertion {a : Assertion} {next i q k : Nat} :
    (q, k) ∈ successors text i (.assertion a next) ↔
      q = next ∧ a.holds (Regex.charBefore text i) text[i]? = true ∧ i = k := by
  change (q, k) ∈ (if a.holds (Regex.charBefore text i) text[i]? then [_] else []).map _ ↔ _
  by_cases holds : a.holds (Regex.charBefore text i) text[i]? = true <;> simp [holds, eq_comm]

theorem mem_successors_save {slot next i q k : Nat} :
    (q, k) ∈ successors text i (.save slot next) ↔ q = next ∧ i = k := by
  simp [successors, PatternProgram.follow, eq_comm]

theorem Graph.Implements.save (slot : Nat) : Graph.Implements text (fun next g => g.add (.save slot next)) Eq :=
  .step (fun _ => nofun) fun _ _ _ _ => mem_successors_save

/-- Recording places restricts nothing. -/
theorem Graph.Implements.capture {body : Nat → Graph → Nat × Graph} {R : Nat → Nat → Prop}
    (h : Graph.Implements text body R) (opening closing : Nat) :
    Graph.Implements text (fun next g =>
      let (close, g) := g.add (.save closing next)
      let (first, g) := body close g
      g.add (.save opening first)) R := by
  have whole := (Graph.Implements.save opening).comp (h.comp (.save closing))
  rwa [Relation.comp_eq, Relation.eq_comp] at whole

theorem Regex.compile_of_widthless {body : Regex} (widthless : body.isWidthless = true) {least : Nat}
    {most : Option Nat} {greedy : Bool} : (Regex.repetition least most greedy body).compile =
      Graph.addRepetition body.compile body.isNullable greedy (min least 1) (some (min (most.getD 1) 1)) := by
  funext next g
  simp only [Regex.compile, if_pos widthless]

theorem Regex.compile_of_wide {body : Regex} (wide : ¬body.isWidthless = true) {least : Nat}
    {most : Option Nat} {greedy : Bool} : (Regex.repetition least most greedy body).compile =
      Graph.addRepetition body.compile body.isNullable greedy least most := by
  funext next g
  simp only [Regex.compile, if_neg wide]

mutual

theorem Regex.implements : ∀ {r : Regex}, r.WellFormed → Graph.Implements text r.compile (r.Spans text)
  | .empty, _ => .skip
  | .literal c folding, _ => .step (fun _ => nofun) fun _ _ _ _ => mem_successors_literal
  | .set s, _ => .step (fun _ => nofun) fun _ _ _ _ => mem_successors_set
  | .assertion a, _ => .step (fun _ => nofun) fun _ _ _ _ => mem_successors_assertion
  | .repetition least most greedy body, formed => by
    obtain ⟨ordered, formed⟩ := formed
    have h := Regex.implements formed
    by_cases widthless : body.isWidthless = true
    · rw [Regex.compile_of_widthless widthless, ← Regex.repetition_of_widthless widthless ordered]
      refine h.repetition _ _ fun m bound => ?_
      cases Option.mem_some.mp bound
      cases most with
      | none => exact Nat.min_le_right ..
      | some m =>
        have := ordered m rfl
        rw [Option.getD_some]
        omega
    · rw [Regex.compile_of_wide widthless]
      exact h.repetition _ _ ordered
  | .group none body, formed => Regex.implements (r := body) formed
  | .group (some number) body, formed => (Regex.implements (r := body) formed).capture ..
  | .concat parts, formed => Regex.implementsAll formed
  | .alternation branches, formed => Regex.implementsAny formed.1 formed.2

theorem Regex.implementsAll : ∀ {parts : List Regex}, Regex.AllWellFormed parts →
    Graph.Implements text (Regex.compileAll parts) (Regex.SpansAll text parts)
  | [], _ => .skip
  | _ :: _, formed => (Regex.implements formed.1).comp (Regex.implementsAll formed.2)

theorem Regex.implementsAny : ∀ {branches : List Regex}, branches ≠ [] → Regex.AllWellFormed branches →
    Graph.Implements text (Regex.compileBranches branches) (Regex.SpansAny text branches)
  | [], some_branch, _ => absurd rfl some_branch
  | [r], _, formed => (Regex.implements formed.1).congr fun i j => by simp [Regex.SpansAny]
  | r :: s :: rest, _, formed =>
    (Regex.implements formed.1).either (Regex.implementsAny (List.cons_ne_nil s rest) formed.2)

end

/-- The program of an expression succeeds from a place on just where the expression spans something. -/
theorem Regex.program_accepts_iff {r : Regex} (formed : r.WellFormed) {i : Nat} :
    (∃ n, Graph.Accepts text r.program.graph n r.program.entry i) ↔ ∃ j, r.Spans text i j := by
  have h : Graph.Implements text (Regex.group (some 0) r).compile (r.Spans text) :=
    Regex.implements (r := .group (some 0) r) formed
  have accepting : r.program.graph[0]? = some .accept := (h.grows 0 #[.accept]).2 0 Nat.one_pos
  constructor
  · rintro ⟨n, accepts⟩
    obtain ⟨j, -, -, spans, -⟩ := h.leaves 0 #[.accept] r.program.graph (fun _ _ _ => rfl) i n accepts
    exact ⟨j, spans⟩
  · rintro ⟨j, spans⟩
    exact h.enters 0 #[.accept] r.program.graph (fun _ _ _ => rfl) i j 0 spans (.done accepting)

end DatasetScript
