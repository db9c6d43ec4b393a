import DatasetScript.Proofs.JoinPlanning
import DatasetScript.Proofs.Positions
import DatasetScript.Proofs.TextReading
/-!
# Datasets that go by one name

A dataset of a join that has no label goes by its text, and a join is refused if two of its datasets
go by one name. Different datasets may have the same text: operators are written without parentheses
of their own, and roles of columns not at all. Main statement: `unlabelled_aliasTwice_iff`.
-/

namespace DatasetScript

/-- What is refused is a name that two datasets of a join go by. -/
def AliasTwice {α : Type} (x : Except Error α) : Prop :=
  ∃ e name, x = .error e ∧ e.cause = .structureMismatch (.aliasTwice name)

theorem Nodeless.not_aliasTwice {α : Type} {x : Except Error α} (h : Nodeless x) :
    ¬ AliasTwice x :=
  fun ⟨e, name, failed, cause⟩ => (h e failed).cause name cause

theorem aliasTwice_check_iff [PatternLanguage] {scope : Scope} {form : Form} {p : Option Position} :
    AliasTwice (Node.check scope ⟨form, p⟩) ↔ AliasTwice (form.check scope) := by
  unfold Node.check AliasTwice
  cases form.check scope with
  | ok e => simp [locate, bind, Except.bind, pure, Except.pure]
  | error e => simp [locate, bind, Except.bind, Error.locate]

/-! ### Names that are taken -/

theorem joinOperands_twice {taken : List String} {operands : List (Option String × Operand)}
    {queries : List Query} (built : List.Forall₂ (fun o q => o.2.query = .ok q) operands queries)
    (twice : ¬ ((operands.map fun o => Checking.joinName o.1 o.2.node).Nodup ∧
      ∀ o ∈ operands, Checking.joinName o.1 o.2.node ∉ taken)) :
    AliasTwice (Checking.joinOperands taken operands) := by
  induction built generalizing taken with
  | nil => exact absurd ⟨List.nodup_nil, List.forall_mem_nil _⟩ twice
  | @cons o q operands queries query _ ih =>
    obtain ⟨label, operand⟩ := o
    unfold Checking.joinOperands
    dsimp only at query ⊢
    rw [query, ok_bind]
    by_cases known : Checking.joinName label operand.node ∈ taken
    · rw [if_pos known]
      exact ⟨_, _, rfl, rfl⟩
    · rw [if_neg known]
      have later : ¬ ((operands.map fun o => Checking.joinName o.1 o.2.node).Nodup ∧
          ∀ o ∈ operands, Checking.joinName o.1 o.2.node ∉
            Checking.joinName label operand.node :: taken) := by
        rintro ⟨distinct, fresh⟩
        refine twice ⟨List.nodup_cons.mpr ⟨fun member => ?_, distinct⟩,
          List.forall_mem_cons.mpr ⟨known, fun o member => ?_⟩⟩
        · obtain ⟨o, here, same⟩ := List.mem_map.mp member
          exact fresh o here (same ▸ List.mem_cons_self)
        · exact fun old => fresh o member (List.mem_cons_of_mem _ old)
      obtain ⟨e, name, failed, cause⟩ := ih later
      rw [failed]
      exact ⟨e, name, rfl, cause⟩

section

variable {scope : Scope} {operands : List JoinOperand} {queries : List Query}

/-- A join of datasets is refused for their names exactly if two of these are the same. -/
theorem join_aliasTwice_iff [PatternLanguage] {kind : JoinKind} {keys : List String}
    {p : Option Position}
    (built : List.Forall₂ (fun o q => o.dataset.check scope = .ok (.query q)) operands queries) :
    AliasTwice (Node.check scope ⟨.join kind operands keys, p⟩) ↔
      ¬ (operands.map JoinOperand.name).Nodup := by
  rw [aliasTwice_check_iff]
  unfold Form.check Checking.join
  have names : ((checkJoinOperands scope operands).map fun o => Checking.joinName o.1 o.2.node) =
      operands.map JoinOperand.name := by
    rw [checkJoinOperands_eq_map, List.map_map]
    rfl
  have queries := checkJoinOperands_query built
  rw [← names]
  by_cases empty : (checkJoinOperands scope operands).isEmpty
  · rw [if_pos empty, List.isEmpty_iff.mp empty]
    simp [AliasTwice, Error.argumentCount]
  rw [if_neg empty]
  by_cases distinct : ((checkJoinOperands scope operands).map
      fun o => Checking.joinName o.1 o.2.node).Nodup
  · rw [joinOperands_of_queries queries distinct fun _ _ => List.not_mem_nil, ok_bind]
    refine iff_of_false (Nodeless.not_aliasTwice ?_) (not_not.mpr distinct)
    refine (Nodeless.keyComponents _ _ _).bind fun columns => FailsWith.bind ?_ fun _ => .pure _
    exact (Nodeless.ofOperands _ _ _).bind fun _ => .pure _
  · refine iff_of_true ?_ distinct
    have refused : AliasTwice (Checking.joinOperands [] (checkJoinOperands scope operands)) :=
      joinOperands_twice queries fun h => distinct h.1
    obtain ⟨e, name, failed, cause⟩ := refused
    rw [failed]
    exact ⟨e, name, rfl, cause⟩

end

/-! ### Datasets without labels -/

/-- The operands of a join are datasets without labels. -/
structure Unlabelled [PatternLanguage] (scope : Scope) (operands : List JoinOperand) : Prop where
  labels : ∀ o ∈ operands, o.label = none
  built : ∀ o ∈ operands, ∃ q, o.dataset.check scope = .ok (.query q)

/-- Datasets without labels collide exactly if their texts are the same. So they do if they are
equal up to positions and, if they are written by one convention, only if they are equal up to what
texts leave out. -/
theorem unlabelled_aliasTwice_iff [PatternLanguage] {scope : Scope} {operands : List JoinOperand}
    (h : Unlabelled scope operands) (kind : JoinKind) (keys : List String) (p : Option Position) :
    (AliasTwice (Node.check scope ⟨.join kind operands keys, p⟩) ↔
      ¬ (operands.map (·.dataset.text)).Nodup) ∧
    (¬ (operands.map (·.dataset.erase)).Nodup →
      AliasTwice (Node.check scope ⟨.join kind operands keys, p⟩)) ∧
    ∀ c : Convention, (∀ o ∈ operands, o.dataset.Written c) →
      (AliasTwice (Node.check scope ⟨.join kind operands keys, p⟩) ↔
        ¬ (operands.map (·.dataset.bare)).Nodup) := by
  obtain ⟨queries, built⟩ := exists_forall₂_of_each h.built
  have texts : operands.map JoinOperand.name = operands.map (·.dataset.text) :=
    List.map_congr_left fun o member => by
      rw [JoinOperand.name, h.labels o member]
      rfl
  have named : AliasTwice (Node.check scope ⟨.join kind operands keys, p⟩) ↔
      ¬ (operands.map (·.dataset.text)).Nodup := texts ▸ join_aliasTwice_iff built
  refine ⟨named, fun twice => named.mpr (mt ?_ twice), fun c written => ?_⟩
  · intro distinct
    refine List.Nodup.of_map Node.text ?_
    rw [List.map_map]
    convert distinct using 2
    exact funext fun o => o.dataset.text_erase
  · rw [named, List.Nodup, List.Nodup, List.pairwise_map, List.pairwise_map]
    refine not_congr (List.Pairwise.iff_of_mem fun first second => not_congr ?_)
    exact (bare_eq_iff (written _ first) (written _ second)).symm

namespace Orders

def columns : Structure :=
  ⟨[⟨"id", .integer, .identifier⟩, ⟨"paid", .boolean, .identifier⟩], by decide⟩

def scope : Scope := Bindings.scope [("orders", .dataset ⟨columns, []⟩)]

def node (form : Form) : Node := ⟨form, none⟩

def orders : Node := node (.name "orders")

def paid : Node := node (.name "paid")

def filtered (predicate : Form) : Node := node (.clause orders (.filter (node predicate)))

def both (left right : Node) : Form := .binary (.logical .and) left right

def either (left right : Node) : Form := .binary (.logical .or) left right

def usual : Convention where
  level
    | .binary (.logical .and) => 2
    | .binary (.logical _) => 1
    | .binary (.comparison _) | .member _ => 3
    | .binary (.additive _) => 4
    | .binary (.multiplicative _) => 5
  level_pos op := by
    rcases op with (op | op | op | op) | negated
    · cases op <;> decide
    all_goals exact Nat.succ_pos _

def together (left right : Node) : List JoinOperand := [⟨left, none⟩, ⟨right, none⟩]

/-- `orders[filter (paid or paid) and paid]` and `orders[filter paid or paid and paid]` -/
def bracketed : List JoinOperand :=
  together (filtered (both (node (.parenthesis (node (either paid paid)))) paid))
    (filtered (either paid (node (both paid paid))))

end Orders

open Orders in
theorem bracketed_go_together : Unlabelled scope bracketed ∧
    (∀ o ∈ bracketed, o.dataset.Written usual) ∧
    ¬ AliasTwice (Node.check scope ⟨.join .inner bracketed [], none⟩) := by
  have unlabelled : Unlabelled scope bracketed := by
    constructor
    · exact List.forall_mem_cons.mpr ⟨rfl, List.forall_mem_singleton.mpr rfl⟩
    · exact List.forall_mem_cons.mpr ⟨⟨_, rfl⟩, List.forall_mem_singleton.mpr ⟨_, rfl⟩⟩
  have column : paid.Written usual := .name (by decide) none
  have selection {predicate : Form} (written : (node predicate).Written usual) :
      (filtered predicate).Written usual := by
    refine .clause (.name (by decide) none) trivial ?_ (List.forall_mem_nil _) none
    exact List.forall_mem_singleton.mpr written
  have written : ∀ o ∈ bracketed, o.dataset.Written usual := by
    refine List.forall_mem_cons.mpr ⟨selection ?_, List.forall_mem_singleton.mpr (selection ?_)⟩
    · exact .binary (.parenthesis (.binary column column nofun nofun none) none) column nofun nofun
        none
    · refine .binary column (.binary column column nofun nofun none) nofun ?_ none
      rintro _ ⟨⟩
      decide
  refine ⟨unlabelled, written, ?_⟩
  rw [(unlabelled_aliasTwice_iff unlabelled .inner [] none).2.2 usual written, not_not]
  simp [bracketed, together, filtered, node, both, either, Node.bare, Form.bare, Clause.bare]

namespace Orders

/-- Datasets that differ in more than positions, and cannot be joined without labels. -/
structure Collide (operands : List JoinOperand) : Prop where
  unlabelled : Unlabelled scope operands
  different : (operands.map (·.dataset.erase)).Nodup
  refused : AliasTwice (Node.check scope ⟨.join .inner operands [], none⟩)

/-- Different datasets that have the same text. -/
def collisions : List (List JoinOperand) :=
  [ -- `paid or paid and paid`, with the parentheses left out
    together (filtered (both (node (either paid paid)) paid))
      (filtered (either paid (node (both paid paid)))),
    -- the clause belongs to the conditional, or to its last branch
    together
      (node (.clause (node (.conditional (node (.literal (.boolean true))) orders orders))
        (.filter paid)))
      (node (.conditional (node (.literal (.boolean true))) orders (filtered (.name "paid")))),
    -- a column in different roles
    together (node (.clause orders (.calculate [⟨"x", some .measure, paid⟩])))
      (node (.clause orders (.calculate [⟨"x", some .identifier, paid⟩]))),
    -- functions of different families, in a branch that is never taken
    together
      (filtered (.conditional (node (.literal .null)) (node (.call .string "f" [])) paid))
      (filtered (.conditional (node (.literal .null)) (node (.call .numeric "f" [])) paid)),
    -- two texts, or one with quotes inside
    together
      (filtered (.membership false (node (.literal (.string "a"))) [.string "a", .string "b"]))
      (filtered (.membership false (node (.literal (.string "a"))) [.string "a\", \"b"])),
    -- a negative integer, or a minus before a positive one
    together
      (filtered (.binary (.comparison .eq) (node (.name "id"))
        (node (.literal (.integer (-1))))))
      (filtered (.binary (.comparison .eq) (node (.name "id"))
        (node (.unary .minus (node (.literal (.integer 1))))))),
    -- a reserved word, or a column of that name
    together
      (node (.clause (node (.clause orders (.rename [⟨"paid", "true"⟩])))
        (.filter (node (.literal (.boolean true))))))
      (node (.clause (node (.clause orders (.rename [⟨"paid", "true"⟩])))
        (.filter (node (.name "true")))))]

theorem collide {left right : Node} {p q : Query} (first : left.check scope = .ok (.query p))
    (second : right.check scope = .ok (.query q)) (different : left.erase ≠ right.erase)
    (refused : AliasTwice (Node.check scope ⟨.join .inner (together left right) [], none⟩)) :
    Collide (together left right) where
  unlabelled :=
    { labels := by simp [together]
      built := by simp [together, first, second] }
  different := by simpa [together] using different
  refused := refused

end Orders

open Orders in
theorem different_datasets_collide : collisions.Forall Collide := by
  refine ⟨collide rfl rfl ?_ ⟨_, _, rfl, rfl⟩, collide rfl rfl ?_ ⟨_, _, rfl, rfl⟩,
    collide rfl rfl ?_ ⟨_, _, rfl, rfl⟩, collide rfl rfl ?_ ⟨_, _, rfl, rfl⟩,
    collide rfl rfl ?_ ⟨_, _, rfl, rfl⟩, collide rfl rfl ?_ ⟨_, _, rfl, rfl⟩,
    collide rfl rfl ?_ ⟨_, _, rfl, rfl⟩⟩
  all_goals
    intro same
    simp [filtered, node, both, either, orders, paid, Node.erase, Form.erase, Clause.erase,
      eraseCalculations, eraseArguments] at same

end DatasetScript
