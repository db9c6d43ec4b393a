/-!
# Association lists

Finite maps as lists of pairs in which the first pair of a key counts. Two ways of adding a pair
are kept apart: `Assoc.put` keeps the order in which keys came, `Assoc.insert` keeps keys sorted.
-/

namespace DatasetScript.Assoc

variable {α β : Type}

def find? (entries : List (String × α)) (name : String) : Option α :=
  (entries.find? (·.1 == name)).map (·.2)

def names (entries : List (String × α)) : List String := entries.map (·.1)

/-- Gives a name its value at the place of its first pair, or at the end. -/
def put : List (String × α) → String → α → List (String × α)
  | [], name, value => [(name, value)]
  | (other, old) :: rest, name, value =>
    if other = name then (name, value) :: rest else (other, old) :: put rest name value

/-- Every name once, at its first place and with its last value. -/
def ofPairs (entries : List (String × α)) : List (String × α) :=
  entries.foldl (fun acc (name, value) => put acc name value) []

/-- Gives a name its value in a list sorted by name. -/
def insert : List (String × α) → String → α → List (String × α)
  | [], name, value => [(name, value)]
  | (other, old) :: rest, name, value =>
    if name = other then (name, value) :: rest
    else if name < other then (name, value) :: (other, old) :: rest
    else (other, old) :: insert rest name value

/-- Every name once, sorted, with its last value. -/
def sorted (entries : List (String × α)) : List (String × α) :=
  entries.foldl (fun acc (name, value) => insert acc name value) []

/-- Whether two lists are equal as maps: as many pairs, and under every name of the first an equal
value in the second. -/
def sameMap [BEq α] (entries others : List (String × α)) : Bool :=
  entries.length == others.length &&
    entries.all fun (name, value) => (find? others name).any (value == ·)

/-! ### Looking up -/

@[simp] theorem find?_nil (name : String) : find? ([] : List (String × α)) name = none := rfl

theorem find?_cons (other name : String) (value : α) (rest : List (String × α)) :
    find? ((other, value) :: rest) name = if other = name then some value else find? rest name := by
  by_cases h : other = name <;> simp [find?, h]

theorem find?_insert (entries : List (String × α)) (name other : String) (value : α) :
    find? (insert entries name value) other =
      if name = other then some value else find? entries other := by
  induction entries with
  | nil => simp [insert, find?_cons]
  | cons entry rest ih =>
    obtain ⟨key, old⟩ := entry
    unfold insert
    split
    · subst_vars
      simp only [find?_cons]
      split <;> rfl
    · split
      · simp [find?_cons]
      · simp only [find?_cons, ih]
        split
        · subst_vars
          simp_all
        · rfl

theorem find?_eq_none_iff (entries : List (String × α)) (name : String) :
    find? entries name = none ↔ name ∉ names entries := by
  simp only [find?, names, Option.map_eq_none_iff, List.find?_eq_none, List.mem_map, not_exists,
    not_and, beq_iff_eq]

theorem find?_eq_some_iff {entries : List (String × α)} (distinct : (names entries).Nodup)
    {name : String} {value : α} : find? entries name = some value ↔ (name, value) ∈ entries := by
  induction entries with
  | nil => simp
  | cons entry rest ih =>
    obtain ⟨key, old⟩ := entry
    obtain ⟨fresh, distinct⟩ := List.nodup_cons.mp distinct
    rw [find?_cons, List.mem_cons, Prod.mk.injEq]
    by_cases same : key = name
    · subst same
      have absent : (key, value) ∉ rest := fun member =>
        fresh (List.mem_map.mpr ⟨_, member, rfl⟩)
      simp [absent, eq_comm]
    · simp [same, Ne.symm same, ih distinct]

theorem find?_perm {entries others : List (String × α)} (distinct : (names entries).Nodup)
    (perm : entries.Perm others) (name : String) : find? entries name = find? others name := by
  have distinct' : (names others).Nodup := (perm.map Prod.fst).nodup distinct
  apply Option.ext
  intro value
  rw [find?_eq_some_iff distinct, find?_eq_some_iff distinct', perm.mem_iff]

theorem find?_append (entries others : List (String × α)) (name : String) :
    find? (entries ++ others) name = (find? entries name).or (find? others name) := by
  induction entries with
  | nil => rfl
  | cons entry rest ih =>
    obtain ⟨key, value⟩ := entry
    rw [List.cons_append, find?_cons, find?_cons, ih]
    split <;> rfl

theorem names_map (f : α → β) (entries : List (String × α)) :
    names (entries.map fun entry => (entry.1, f entry.2)) = names entries := by
  rw [names, List.map_map]
  rfl

theorem find?_map (f : α → β) (entries : List (String × α)) (name : String) :
    find? (entries.map fun entry => (entry.1, f entry.2)) name = (find? entries name).map f := by
  induction entries with
  | nil => rfl
  | cons entry rest ih =>
    obtain ⟨key, value⟩ := entry
    rw [List.map_cons, find?_cons, find?_cons, ih]
    split <;> rfl

theorem put_of_fresh {entries : List (String × α)} {name : String} (value : α)
    (fresh : name ∉ names entries) : put entries name value = entries ++ [(name, value)] := by
  induction entries with
  | nil => rfl
  | cons entry rest ih =>
    obtain ⟨key, old⟩ := entry
    obtain ⟨different, later⟩ : name ≠ key ∧ name ∉ names rest := by simpa [names] using fresh
    rw [put, if_neg (Ne.symm different), ih later]
    rfl

theorem sameMap_iff [BEq α] {entries others : List (String × α)} :
    sameMap entries others ↔ entries.length = others.length ∧
      ∀ entry ∈ entries, ∃ value, find? others entry.1 = some value ∧ entry.2 == value := by
  simp only [sameMap, Bool.and_eq_true, beq_iff_eq, List.all_eq_true, Option.any_eq_true]

/-- Lists that give the same names a value each are equal as maps exactly if these values are equal. -/
theorem sameMap_iff_find? [BEq α] {entries others : List (String × α)}
    (distinct : (names entries).Nodup) (perm : (names entries).Perm (names others)) :
    sameMap entries others ↔ ∀ name, find? entries name == find? others name := by
  rw [sameMap_iff]
  constructor
  · rintro ⟨-, found⟩ name
    cases held : find? entries name with
    | none =>
      rw [find?_eq_none_iff, perm.mem_iff, ← find?_eq_none_iff] at held
      rw [held]
      rfl
    | some value =>
      obtain ⟨own, there, equal⟩ := found _ ((find?_eq_some_iff distinct).mp held)
      rw [there]
      exact equal
  · intro equal
    refine ⟨by simpa [names] using perm.length_eq, fun entry member => ?_⟩
    have equal := equal entry.1
    rw [(find?_eq_some_iff distinct).mpr member] at equal
    cases there : find? others entry.1 with
    | none =>
      rw [there] at equal
      cases equal
    | some own =>
      rw [there] at equal
      exact ⟨own, rfl, equal⟩

/-! ### Order -/

theorem insert_perm {entries : List (String × α)} {name : String} (value : α)
    (fresh : name ∉ names entries) :
    (insert entries name value).Perm ((name, value) :: entries) := by
  induction entries with
  | nil => exact .refl _
  | cons entry rest ih =>
    obtain ⟨key, old⟩ := entry
    obtain ⟨different, later⟩ : name ≠ key ∧ name ∉ names rest := by simpa [names] using fresh
    unfold insert
    rw [if_neg different]
    split
    · exact .refl _
    · exact ((ih later).cons _).trans (.swap _ _ _)

/-- Sorting entries of different names only moves them. -/
theorem sorted_perm {entries : List (String × α)} (distinct : (names entries).Nodup) :
    (sorted entries).Perm entries := by
  have folded : ∀ (entries before : List (String × α)), (names (before ++ entries)).Nodup →
      (entries.foldl (fun acc (name, value) => insert acc name value) before).Perm
        (before ++ entries) := by
    intro entries
    induction entries with
    | nil => intro before _; simp
    | cons entry rest ih =>
      intro before distinct
      obtain ⟨name, value⟩ := entry
      have moved : (before ++ (name, value) :: rest).Perm ((name, value) :: (before ++ rest)) :=
        List.perm_middle
      have distinct := (moved.map Prod.fst).nodup distinct
      have fresh : name ∉ names before := by
        intro member
        have inBoth : name ∈ names (before ++ rest) := by
          simp only [names, List.map_append, List.mem_append]
          exact .inl member
        exact (List.nodup_cons.mp distinct).1 inBoth
      have inserted := (insert_perm value fresh).append_right rest
      exact (ih _ ((inserted.map Prod.fst).symm.nodup distinct)).trans (inserted.trans moved.symm)
  exact folded entries [] distinct

theorem insert_map (f : α → β) (entries : List (String × α)) (name : String) (value : α) :
    insert (entries.map fun entry => (entry.1, f entry.2)) name (f value) =
      (insert entries name value).map fun entry => (entry.1, f entry.2) := by
  induction entries with
  | nil => rfl
  | cons entry rest ih =>
    obtain ⟨key, old⟩ := entry
    simp only [List.map_cons, insert]
    split
    · rfl
    · split
      · rfl
      · rw [ih, List.map_cons]

theorem sorted_map (f : α → β) (entries : List (String × α)) :
    sorted (entries.map fun entry => (entry.1, f entry.2)) =
      (sorted entries).map fun entry => (entry.1, f entry.2) := by
  have folded : ∀ (entries before : List (String × α)),
      (entries.map fun entry => (entry.1, f entry.2)).foldl
        (fun acc (name, value) => insert acc name value)
          (before.map fun entry => (entry.1, f entry.2)) =
        (entries.foldl (fun acc (name, value) => insert acc name value) before).map
          fun entry => (entry.1, f entry.2) := by
    intro entries
    induction entries with
    | nil => intro before; rfl
    | cons entry rest ih =>
      intro before
      rw [List.map_cons, List.foldl_cons, List.foldl_cons, ← ih]
      dsimp only
      rw [insert_map]
  exact folded entries []

theorem mem_of_mem_insert {entries : List (String × α)} {name : String} {value : α}
    {entry : String × α} (member : entry ∈ insert entries name value) :
    entry = (name, value) ∨ entry ∈ entries := by
  induction entries with
  | nil => exact .inl (List.mem_singleton.mp member)
  | cons first rest ih =>
    obtain ⟨key, old⟩ := first
    unfold insert at member
    split at member
    · rcases List.mem_cons.mp member with here | later
      · exact .inl here
      · exact .inr (List.mem_cons_of_mem _ later)
    · split at member
      · exact List.mem_cons.mp member
      · rcases List.mem_cons.mp member with here | later
        · exact .inr (here ▸ List.mem_cons_self)
        · exact (ih later).imp_right (List.mem_cons_of_mem _)

theorem mem_of_mem_sorted {entries : List (String × α)} {entry : String × α}
    (member : entry ∈ sorted entries) : entry ∈ entries := by
  have folded : ∀ (entries before : List (String × α)),
      entry ∈ entries.foldl (fun acc (name, value) => insert acc name value) before →
        entry ∈ before ∨ entry ∈ entries := by
    intro entries
    induction entries with
    | nil => intro before member; exact .inl member
    | cons first rest ih =>
      intro before member
      rcases ih _ member with inserted | later
      · rcases mem_of_mem_insert inserted with rfl | earlier
        · exact .inr List.mem_cons_self
        · exact .inl earlier
      · exact .inr (List.mem_cons_of_mem _ later)
  exact (folded entries [] member).resolve_left List.not_mem_nil

/-- Names are inserted in any order. -/
theorem insert_comm (entries : List (String × α)) {x y : String} (v w : α) (different : x ≠ y) :
    insert (insert entries x v) y w = insert (insert entries y w) x v := by
  -- each name stops at the first entry that does not come before it
  induction entries with
  | nil => grind [insert]
  | cons entry rest ih =>
    obtain ⟨key, old⟩ := entry
    grind [insert]

end DatasetScript.Assoc
