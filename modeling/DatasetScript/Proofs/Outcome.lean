import DatasetScript.Error
import Mathlib.Data.List.Forall2
/-!
# Outcomes

How a computation that may fail comes to succeed. Main statements: `bind_ok` takes a success apart
into the successes of its steps, `mapM_ok` a success on a list into one per item, and `Yields.bind`
and `FailsWith.bind` carry what is known of the steps to the whole.
-/

namespace DatasetScript

variable {ε α β γ : Type}

theorem pure_ok {a b : α} (h : (pure a : Except ε α) = .ok b) : b = a := by
  cases h
  rfl

theorem bind_ok {x : Except ε α} {f : α → Except ε β} {b : β} (h : (x >>= f) = .ok b) :
    ∃ a, x = .ok a ∧ f a = .ok b := by
  cases x with
  | error e => cases h
  | ok a => exact ⟨a, rfl, h⟩

@[simp] theorem ok_bind (a : α) (f : α → Except ε β) : ((Except.ok a : Except ε α) >>= f) = f a :=
  rfl

@[simp] theorem error_bind (e : ε) (f : α → Except ε β) :
    ((Except.error e : Except ε α) >>= f) = .error e := rfl

theorem mapM_cons_ok {f : α → Except ε β} {x : α} {xs : List α} {ys : List β}
    (h : (x :: xs).mapM f = .ok ys) : ∃ y rest, f x = .ok y ∧ xs.mapM f = .ok rest ∧ ys = y :: rest := by
  rw [List.mapM_cons] at h
  obtain ⟨y, first, h⟩ := bind_ok h
  obtain ⟨rest, others, h⟩ := bind_ok h
  exact ⟨y, rest, first, others, pure_ok h⟩

theorem mapM_ok {f : α → Except ε β} {xs : List α} {ys : List β} (h : xs.mapM f = .ok ys) :
    List.Forall₂ (fun x y => f x = .ok y) xs ys := by
  induction xs generalizing ys with
  | nil =>
    rw [pure_ok h]
    exact .nil
  | cons x xs ih =>
    obtain ⟨y, rest, first, others, rfl⟩ := mapM_cons_ok h
    exact .cons first (ih others)

theorem exists_forall₂_of_each {R : α → β → Prop} {xs : List α} (each : ∀ x ∈ xs, ∃ y, R x y) :
    ∃ ys, List.Forall₂ R xs ys := by
  induction xs with
  | nil => exact ⟨[], .nil⟩
  | cons x xs ih =>
    obtain ⟨⟨y, first⟩, later⟩ := List.forall_mem_cons.mp each
    obtain ⟨ys, others⟩ := ih later
    exact ⟨y :: ys, .cons first others⟩

theorem mapM_of_forall₂ {f : α → Except ε β} {xs : List α} {ys : List β}
    (each : List.Forall₂ (fun x y => f x = .ok y) xs ys) : xs.mapM f = .ok ys := by
  induction each with
  | nil => rfl
  | cons first _ ih =>
    rw [List.mapM_cons, first, ih]
    rfl

theorem mapM_of_forall {f : α → Except ε β} {g : α → β} {xs : List α}
    (each : ∀ x ∈ xs, f x = .ok (g x)) : xs.mapM f = .ok (xs.map g) := by
  induction xs with
  | nil => rfl
  | cons x xs ih =>
    rw [List.mapM_cons, each x List.mem_cons_self, ih fun y member => each y (List.mem_cons_of_mem x member)]
    rfl

theorem exists_mapM {f : α → Except ε β} {xs : List α} (each : ∀ x ∈ xs, ∃ y, f x = .ok y) :
    ∃ ys, xs.mapM f = .ok ys :=
  (exists_forall₂_of_each each).imp fun _ => mapM_of_forall₂

theorem mapM_congr {f g : α → Except ε β} {xs : List α} (same : ∀ x ∈ xs, f x = g x) :
    xs.mapM f = xs.mapM g := by
  induction xs with
  | nil => rfl
  | cons x xs ih =>
    rw [List.mapM_cons, List.mapM_cons, same x List.mem_cons_self,
      ih fun y member => same y (List.mem_cons_of_mem x member)]

theorem mapM_map_results {f : α → Except ε γ} {g : α → Except ε β} {k : β → γ} {xs : List α}
    (same : ∀ x ∈ xs, f x = (g x).map k) : xs.mapM f = (xs.mapM g).map (List.map k) := by
  induction xs with
  | nil => rfl
  | cons x xs ih =>
    have later := ih fun y member => same y (List.mem_cons_of_mem x member)
    rw [List.mapM_cons, List.mapM_cons, same x List.mem_cons_self, later]
    cases g x with
    | error e => rfl
    | ok y => cases xs.mapM g <;> rfl

theorem exists_of_forall₂ {R : α → β → Prop} {xs : List α} {ys : List β} {x : α}
    (each : List.Forall₂ R xs ys) (member : x ∈ xs) : ∃ y ∈ ys, R x y := by
  induction each with
  | nil => cases member
  | cons first _ ih =>
    rcases List.mem_cons.mp member with rfl | later
    · exact ⟨_, List.mem_cons_self, first⟩
    · obtain ⟨y, behind, related⟩ := ih later
      exact ⟨y, List.mem_cons_of_mem _ behind, related⟩

theorem mapM_each {f : α → Except ε β} {xs : List α} {ys : List β} {x : α}
    (h : xs.mapM f = .ok ys) (member : x ∈ xs) : ∃ y ∈ ys, f x = .ok y :=
  exists_of_forall₂ (mapM_ok h) member

theorem mapM_member {f : α → Except ε β} {xs : List α} {ys : List β} {y : β}
    (h : xs.mapM f = .ok ys) (member : y ∈ ys) : ∃ x ∈ xs, f x = .ok y :=
  exists_of_forall₂ (R := fun y x => f x = .ok y) (mapM_ok h).flip member

theorem forM_ok {f : α → Except ε PUnit} {xs : List α} (h : xs.forM f = .ok ()) :
    ∀ x ∈ xs, f x = .ok () := by
  induction xs with
  | nil => exact nofun
  | cons x xs ih =>
    obtain ⟨_, first, others⟩ := bind_ok (f := fun _ => xs.forM f) h
    exact List.forall_mem_cons.mpr ⟨first, ih others⟩

theorem forM_of_forall {f : α → Except ε PUnit} {xs : List α} (each : ∀ x ∈ xs, f x = .ok ()) :
    xs.forM f = .ok () := by
  induction xs with
  | nil => rfl
  | cons x xs ih =>
    obtain ⟨first, later⟩ := List.forall_mem_cons.mp each
    change (f x >>= fun _ => xs.forM f) = .ok ()
    rw [first, ok_bind, ih later]

theorem mapM_perm {f : α → Except ε β} {xs xs' : List α} {ys ys' : List β} (perm : xs.Perm xs')
    (h : xs.mapM f = .ok ys) (h' : xs'.mapM f = .ok ys') : ys.Perm ys' := by
  have found {xs : List α} {ys : List β} (h : xs.mapM f = .ok ys) :
      xs.filterMap (fun x => (f x).toOption) = ys := by
    induction xs generalizing ys with
    | nil => exact (pure_ok h).symm
    | cons x xs ih =>
      obtain ⟨y, rest, first, others, rfl⟩ := mapM_cons_ok h
      rw [List.filterMap_cons, first, ih others]
      rfl
  rw [← found h, ← found h']
  exact perm.filterMap _

/-! ### What computations yield -/

/-- Whatever the computation gives is what is asked for. -/
def Yields (post : α → Prop) (x : Except ε α) : Prop := ∀ a, x = .ok a → post a

namespace Yields

variable {p : α → Prop} {q : β → Prop} {x : Except ε α}

theorem ok {a : α} (h : p a) : Yields p (.ok a : Except ε α) := by
  rintro _ ⟨⟩
  exact h

theorem error (e : ε) : Yields p (.error e) := nofun

theorem bind {f : α → Except ε β} (first : Yields p x) (later : ∀ a, p a → Yields q (f a)) :
    Yields q (x >>= f) := by
  intro b h
  obtain ⟨a, made, h⟩ := bind_ok h
  exact later a (first a made) b h

/-- The result of the first computation may be used as such. -/
theorem bind_eq {f : α → Except ε β} (later : ∀ a, x = .ok a → Yields q (f a)) :
    Yields q (x >>= f) := by
  intro b h
  obtain ⟨a, made, h⟩ := bind_ok h
  exact later a made b h

theorem locate {x : Except Error α} {position : Option Position} (h : Yields p x) :
    Yields p (locate position x) := fun a made => h a (locate_eq_ok_iff.mp made)

end Yields

/-! ### What computations fail with -/

/-- Whatever error the computation ends in is as asked for. -/
def FailsWith (p : ε → Prop) (x : Except ε α) : Prop := ∀ e, x = .error e → p e

namespace FailsWith

variable {p : ε → Prop} {x : Except ε α}

theorem ok (a : α) : FailsWith p (.ok a : Except ε α) := nofun

theorem pure (a : α) : FailsWith p (Pure.pure a : Except ε α) := ok a

theorem error {e : ε} (h : p e) : FailsWith p (.error e : Except ε α) := by
  rintro _ ⟨⟩
  exact h

theorem bind {f : α → Except ε β} (first : FailsWith p x) (later : ∀ a, FailsWith p (f a)) :
    FailsWith p (x >>= f) := by
  cases x with
  | error e => exact error (first e rfl)
  | ok a => exact later a

theorem mapM {f : α → Except ε β} (each : ∀ a, FailsWith p (f a)) (xs : List α) :
    FailsWith p (xs.mapM f) := by
  induction xs with
  | nil => exact pure []
  | cons a rest ih =>
    rw [List.mapM_cons]
    exact (each a).bind fun b => ih.bind fun bs => pure _

theorem forM {f : α → Except ε PUnit} (each : ∀ a, FailsWith p (f a)) (xs : List α) :
    FailsWith p (xs.forM f) := by
  induction xs with
  | nil => exact pure _
  | cons a rest ih => exact (each a).bind fun _ => ih

end FailsWith

end DatasetScript
