import DatasetScript.Proofs.PatternPrograms
import Mathlib.Tactic.SplitIfs
/-!
# Searching for patterns

A search leaves pairs of steps and places that have been tried without success. What leads on from them
has been tried as well or is still to be tried, so that nothing is missed when no way is left. Main
statement: `PatternProgram.find?_isSome_iff`.
-/

namespace DatasetScript

variable {text : Array Char}

/-! ### Successors -/

theorem successors_inside {place next k : Nat} {s : Step} (leads : (next, k) ∈ successors text place s)
    (inside : place ≤ text.size) : k ≤ text.size := by
  cases s with
  | accept => cases leads
  | literal c folding q =>
    obtain ⟨-, d, found, -, rfl⟩ := mem_successors_literal.mp leads
    exact Regex.lt_size_of_getElem? found
  | set s q =>
    obtain ⟨-, d, found, -, rfl⟩ := mem_successors_set.mp leads
    exact Regex.lt_size_of_getElem? found
  | assertion a q =>
    obtain ⟨-, -, rfl⟩ := mem_successors_assertion.mp leads
    exact inside
  | save slot q =>
    obtain ⟨-, rfl⟩ := mem_successors_save.mp leads
    exact inside
  | fork first second =>
    obtain ⟨-, rfl⟩ := Graph.mem_successors_fork.mp leads
    exact inside

namespace PatternProgram

/-- The marks that a way carries do not decide where it leads. -/
theorem follow_pairs (text : Array Char) (w : Way) (s : Step) :
    (follow text w s).map (fun w => (w.step, w.place)) = successors text w.place s := by
  unfold successors
  cases s with
  | accept => rfl
  | literal c folding next =>
    simp only [follow]
    cases text[w.place]? with
    | none => rfl
    | some d => simp only; split_ifs <;> rfl
  | set s next =>
    simp only [follow]
    cases text[w.place]? with
    | none => rfl
    | some d => simp only; split_ifs <;> rfl
  | assertion a next =>
    simp only [follow]
    split_ifs <;> rfl
  | save slot next => rfl
  | fork first second => rfl

theorem mem_successors {w : Way} {s : Step} {q k : Nat} :
    (q, k) ∈ successors text w.place s ↔ ∃ v ∈ follow text w s, v.step = q ∧ v.place = k := by
  rw [← follow_pairs, List.mem_map]
  simp only [Prod.mk.injEq]

theorem follow_length (text : Array Char) (w : Way) (s : Step) : (follow text w s).length ≤ 2 := by
  cases s with
  | literal c folding next =>
    simp only [follow]
    split
    · split_ifs <;> simp
    · simp
  | set s next =>
    simp only [follow]
    split
    · split_ifs <;> simp
    · simp
  | assertion a next =>
    simp only [follow]
    split_ifs <;> simp
  | _ => simp [follow]

/-! ### Pairs that have been tried -/

/-- The number of a pair of a step and a place. -/
def pairNumber (text : Array Char) (step place : Nat) : Nat := step * (text.size + 1) + place

theorem pairNumber_div {step place : Nat} (inside : place ≤ text.size) :
    pairNumber text step place / (text.size + 1) = step := by
  rw [pairNumber, Nat.add_comm, Nat.add_mul_div_right _ _ (Nat.succ_pos _),
    Nat.div_eq_of_lt (Nat.lt_succ_of_le inside), Nat.zero_add]

theorem pairNumber_inj {step place step' place' : Nat} (inside : place ≤ text.size)
    (inside' : place' ≤ text.size) (same : pairNumber text step place = pairNumber text step' place') :
    step = step' ∧ place = place' := by
  have divided := congrArg (· / (text.size + 1)) same
  simp only [pairNumber_div inside, pairNumber_div inside'] at divided
  subst divided
  exact ⟨rfl, Nat.add_left_cancel same⟩

theorem pairNumber_lt_iff {step place steps : Nat} (inside : place ≤ text.size) :
    pairNumber text step place < steps * (text.size + 1) ↔ step < steps := by
  rw [← Nat.div_lt_iff_lt_mul (Nat.succ_pos _), pairNumber_div inside]

/-- A pair that the search does not try again. -/
def Tried (text : Array Char) (tried : Array Bool) (step place : Nat) : Prop :=
  tried.getD (pairNumber text step place) true = true

theorem getD_eq_false_iff {tried : Array Bool} {number : Nat} :
    tried.getD number true = false ↔ tried[number]? = some false := by
  rw [Array.getD_eq_getD_getElem?]
  cases tried[number]? <;> simp

theorem tried_set_iff {tried : Array Bool} {number step place : Nat} :
    Tried text (tried.set! number true) step place ↔
      Tried text tried step place ∨ pairNumber text step place = number := by
  unfold Tried
  rw [Array.set!_eq_setIfInBounds, Array.getD_eq_getD_getElem?, Array.getD_eq_getD_getElem?,
    Array.getElem?_setIfInBounds]
  split_ifs with same inside
  · simp [same]
  · simp [same]
  · simp [Ne.symm same]

theorem count_set {tried : Array Bool} {number : Nat} (fresh : tried.getD number true = false) :
    (tried.set! number true).count false + 1 = tried.count false := by
  obtain ⟨inside, value⟩ := Array.getElem?_eq_some_iff.mp (getD_eq_false_iff.mp fresh)
  have positive : 0 < tried.count false := Array.count_pos_iff.mpr (value ▸ Array.getElem_mem inside)
  rw [Array.set!_eq_setIfInBounds, Array.setIfInBounds, dif_pos inside, Array.count_set, value]
  simp
  omega

/-! ### Exploring -/

variable {p : PatternProgram}

/-- What leads on from the pairs that have been tried has been tried or is among the ways that are left,
and no success is among them. -/
structure Explored (p : PatternProgram) (text : Array Char) (tried : Array Bool) (ways : List Way) :
    Prop where
  size : tried.size = p.graph.size * (text.size + 1)
  going : ∀ {step place}, place ≤ text.size → Tried text tried step place →
    p.graph[step]? ≠ some .accept
  closed : ∀ {step place s next k}, place ≤ text.size → Tried text tried step place →
    p.graph[step]? = some s → (next, k) ∈ successors text place s →
      Tried text tried next k ∨ ∃ w ∈ ways, w.step = next ∧ w.place = k

namespace Explored

variable {tried : Array Bool} {ways : List Way}

/-- A pair that has been tried with no way left does not succeed. -/
theorem not_accepts (explored : Explored p text tried []) {n step place : Nat} (inside : place ≤ text.size)
    (before : Tried text tried step place) : ¬Graph.Accepts text p.graph n step place := by
  intro accepts
  induction accepts with
  | done here => exact explored.going inside before here
  | onward here leads later ih =>
    rcases explored.closed inside before here leads with tried | ⟨w, member, -⟩
    · exact ih (successors_inside leads inside) tried
    · cases member

theorem mono {ways' : List Way} (explored : Explored p text tried ways) (subset : ways ⊆ ways') :
    Explored p text tried ways' where
  size := explored.size
  going := explored.going
  closed inside before here leads :=
    (explored.closed inside before here leads).imp_right fun ⟨w, member, same⟩ => ⟨w, subset member, same⟩

/-- A way whose pair has been tried may be dropped. -/
theorem drop {w : Way} (explored : Explored p text tried (w :: ways))
    (before : Tried text tried w.step w.place) : Explored p text tried ways where
  size := explored.size
  going := explored.going
  closed inside before' here leads := by
    rcases explored.closed inside before' here leads with tried | ⟨v, member, rfl, rfl⟩
    · exact .inl tried
    · rcases List.mem_cons.mp member with rfl | later
      · exact .inl before
      · exact .inr ⟨v, later, rfl, rfl⟩

/-- Trying a way replaces it by the ways that lead on. -/
theorem advance {w : Way} {s : Step} (explored : Explored p text tried (w :: ways))
    (inside : w.place ≤ text.size) (here : p.graph[w.step]? = some s) (going : s ≠ .accept) :
    Explored p text (tried.set! (pairNumber text w.step w.place) true) (follow text w s ++ ways) where
  size := by rw [Array.set!_eq_setIfInBounds, Array.size_setIfInBounds, explored.size]
  going inside' before := by
    rcases tried_set_iff.mp before with before | same
    · exact explored.going inside' before
    · obtain ⟨rfl, rfl⟩ := pairNumber_inj inside' inside same
      rw [here]
      exact fun same => going (Option.some.inj same)
  closed inside' before here' leads := by
    rcases tried_set_iff.mp before with before | same
    · rcases explored.closed inside' before here' leads with tried | ⟨v, member, rfl, rfl⟩
      · exact .inl (tried_set_iff.mpr (.inl tried))
      · rcases List.mem_cons.mp member with rfl | later
        · exact .inl (tried_set_iff.mpr (.inr rfl))
        · exact .inr ⟨v, List.mem_append_right _ later, rfl, rfl⟩
    · obtain ⟨rfl, rfl⟩ := pairNumber_inj inside' inside same
      cases Option.some.inj (here.symm.trans here')
      obtain ⟨v, member, same⟩ := mem_successors.mp leads
      exact .inr ⟨v, List.mem_append_left _ member, same⟩

end Explored

theorem explore_sound {fuel : Nat} {ways : List Way} {tried tried' : Array Bool} {marks : Marks}
    (found : p.explore text fuel ways tried = (some marks, tried')) :
    ∃ w ∈ ways, ∃ n, Graph.Accepts text p.graph n w.step w.place := by
  induction fuel generalizing ways tried with
  | zero => cases found
  | succ fuel ih =>
    cases ways with
    | nil => cases found
    | cons w ways =>
      have later {tried} (found : p.explore text fuel ways tried = (some marks, tried')) :
          ∃ v ∈ w :: ways, ∃ n, Graph.Accepts text p.graph n v.step v.place := by
        obtain ⟨v, member, accepts⟩ := ih found
        exact ⟨v, List.mem_cons_of_mem w member, accepts⟩
      simp only [explore] at found
      split_ifs at found
      · exact later found
      · split at found
        · exact later found
        · rename_i here
          exact ⟨w, List.mem_cons_self, 0, .done here⟩
        · rename_i s going here
          obtain ⟨v, member, n, accepts⟩ := ih found
          rcases List.mem_append.mp member with ahead | behind
          · exact ⟨w, List.mem_cons_self, n + 1,
              .onward here (mem_successors.mpr ⟨v, ahead, rfl, rfl⟩) accepts⟩
          · exact ⟨v, List.mem_cons_of_mem w behind, n, accepts⟩

/-- With fuel for the pairs that are left, a search that finds nothing has tried all its ways, and what
leads on from them. -/
theorem explore_complete {fuel : Nat} {ways : List Way} {tried tried' : Array Bool}
    (missed : p.explore text fuel ways tried = (none, tried')) (explored : Explored p text tried ways)
    (inside : ∀ w ∈ ways, w.place ≤ text.size) (enough : 2 * tried.count false + ways.length ≤ fuel) :
    Explored p text tried' [] ∧ tried'.count false ≤ tried.count false ∧
      (∀ step place, Tried text tried step place → Tried text tried' step place) ∧
        ∀ w ∈ ways, Tried text tried' w.step w.place := by
  induction fuel generalizing ways tried with
  | zero =>
    obtain rfl := List.length_eq_zero_iff.mp (by omega : ways.length = 0)
    cases missed
    exact ⟨explored, Nat.le_refl _, fun _ _ h => h, nofun⟩
  | succ fuel ih =>
    cases ways with
    | nil =>
      cases missed
      exact ⟨explored, Nat.le_refl _, fun _ _ h => h, nofun⟩
    | cons w ways =>
      obtain ⟨here, there⟩ := List.forall_mem_cons.mp inside
      rw [List.length_cons] at enough
      simp only [explore] at missed
      split_ifs at missed with before
      · obtain ⟨done, less, kept, all⟩ := ih missed (explored.drop before) there (by omega)
        exact ⟨done, less, kept, List.forall_mem_cons.mpr ⟨kept _ _ before, all⟩⟩
      · -- marking a pair frees the fuel for the two ways at most that lead on from it
        have fresh := Bool.eq_false_iff.mpr before
        have fewer : (tried.set! (pairNumber text w.step w.place) true).count false + 1 =
            tried.count false := count_set fresh
        have marked : Tried text (tried.set! (pairNumber text w.step w.place) true) w.step w.place :=
          tried_set_iff.mpr (.inr rfl)
        split at missed
        · rename_i missing
          obtain ⟨room, -⟩ := Array.getElem?_eq_some_iff.mp (getD_eq_false_iff.mp fresh)
          rw [explored.size] at room
          have step_inside := (pairNumber_lt_iff here).mp room
          exact absurd step_inside (Nat.not_lt.mpr (Array.getElem?_eq_none_iff.mp missing))
        · cases missed
        · rename_i s going found
          have short := follow_length text w s
          have ahead : ∀ v ∈ follow text w s, v.place ≤ text.size := fun v member =>
            successors_inside (mem_successors.mpr ⟨v, member, rfl, rfl⟩) here
          have bound : 2 * (tried.set! (pairNumber text w.step w.place) true).count false +
              (follow text w s ++ ways).length ≤ fuel := by
            rw [List.length_append]
            omega
          obtain ⟨done, less, kept, all⟩ := ih missed (explored.advance here found going)
            (List.forall_mem_append.mpr ⟨ahead, there⟩) bound
          have fewer' := Nat.le_trans less (Nat.le_of_succ_le (Nat.le_of_eq fewer))
          refine ⟨done, fewer', fun step place earlier => kept step place ?_, ?_⟩
          · exact tried_set_iff.mpr (.inl earlier)
          · exact List.forall_mem_cons.mpr
              ⟨kept _ _ marked, fun v later => all v (List.mem_append_right _ later)⟩

theorem search_isSome_iff {fuel place places : Nat} {tried : Array Bool}
    (explored : Explored p text tried []) (enough : 2 * tried.count false + 1 ≤ fuel)
    (inside : place + places ≤ text.size + 1) :
    (p.search text fuel place tried places).isSome ↔
      ∃ i, place ≤ i ∧ i < place + places ∧ ∃ n, Graph.Accepts text p.graph n p.entry i := by
  induction places generalizing place tried with
  | zero =>
    refine iff_of_false Bool.false_ne_true ?_
    rintro ⟨i, low, high, -⟩
    omega
  | succ places ih =>
    rw [search]
    split
    · rename_i marks tried' found
      obtain ⟨w, member, accepts⟩ := explore_sound found
      obtain rfl := List.mem_singleton.mp member
      exact iff_of_true rfl ⟨place, Nat.le_refl _, by omega, accepts⟩
    · rename_i tried' missed
      obtain ⟨done, less, -, all⟩ := explore_complete missed (explored.mono (List.nil_subset _))
        (List.forall_mem_singleton.mpr (by show place ≤ text.size; omega)) enough
      rw [ih done (by omega) (by omega)]
      constructor
      · rintro ⟨i, low, high, accepts⟩
        exact ⟨i, by omega, by omega, accepts⟩
      · rintro ⟨i, low, high, n, accepts⟩
        rcases Nat.eq_or_lt_of_le low with rfl | later
        · have tried_here := all _ List.mem_cons_self
          exact absurd accepts (done.not_accepts (by omega) tried_here)
        · exact ⟨i, later, by omega, n, accepts⟩

theorem explored_start (p : PatternProgram) (text : Array Char) :
    Explored p text (Array.replicate (p.graph.size * (text.size + 1)) false) [] := by
  have untried {step place : Nat} (inside : place ≤ text.size)
      (before : Tried text (Array.replicate (p.graph.size * (text.size + 1)) false) step place) :
      p.graph[step]? = none := by
    refine Array.getElem?_eq_none_iff.mpr (Nat.le_of_not_lt fun inside_graph => ?_)
    have room := (pairNumber_lt_iff inside).mpr inside_graph
    rw [Tried, Array.getD_eq_getD_getElem?, Array.getElem?_replicate, if_pos room] at before
    exact Bool.false_ne_true before
  refine ⟨Array.size_replicate, fun inside before => ?_, fun inside before here => ?_⟩
  · rw [untried inside before]
    nofun
  · rw [untried inside before] at here
    cases here

/-- A search finds something just where the program succeeds from some place of the text on. -/
theorem find?_isSome_iff (p : PatternProgram) (text : Array Char) :
    (p.find? text 0).isSome ↔ ∃ i ≤ text.size, ∃ n, Graph.Accepts text p.graph n p.entry i := by
  rw [find?, search_isSome_iff (explored_start p text)]
  · refine exists_congr fun i => ?_
    constructor
    · rintro ⟨-, high, accepts⟩
      exact ⟨by omega, accepts⟩
    · rintro ⟨inside, accepts⟩
      exact ⟨Nat.zero_le i, by omega, accepts⟩
  · rw [Array.count_replicate_self]
    omega
  · omega

end PatternProgram

/-- A pattern matches a text just where its expression spans something in it. -/
theorem Regex.find?_isSome_iff {r : Regex} (formed : r.WellFormed) (text : Array Char) :
    (r.program.find? text 0).isSome ↔ ∃ i ≤ text.size, ∃ j, r.Spans text i j := by
  rw [PatternProgram.find?_isSome_iff]
  exact exists_congr fun i => and_congr_right fun _ => r.program_accepts_iff formed

end DatasetScript
