import DatasetScript.Syntax.Printer
import Mathlib.Data.List.TakeWhile
/-!
# Words and marks of texts

The text of a tree falls into words, marks and quoted texts. Which ones come first does not depend on
what stands behind them, if that begins with a blank or a mark. Main statements: `lex_word`,
`lex_opening` and `lex_quoted`.
-/

namespace DatasetScript

inductive Token where
  | word (w : String)
  /-- A word directly before an opening parenthesis, together with that. -/
  | opening (w : String)
  | mark (c : Char)
  | quoted (s : String)
  deriving DecidableEq

def marks : List Char := ['(', ')', '[', ']', '\x7b', '\x7d', ',']

/-- Words end at blanks, marks and quotes. -/
def isWordChar (c : Char) : Bool := !(c == ' ' || c == '"' || marks.contains c)

/-- A sign is a word of its own, unless it is the minus of a negative numeral. -/
def isSign (c : Char) (rest : List Char) : Bool :=
  c == '+' || c == '-' && !rest.head?.any Char.isDigit

def lex : List Char → List Token
  | [] => []
  | c :: cs =>
    if c = ' ' then lex cs
    else if marks.contains c then .mark c :: lex cs
    else if c = '"' then
      .quoted (String.ofList (cs.takeWhile (· ≠ '"'))) :: lex ((cs.dropWhile (· ≠ '"')).drop 1)
    else if isSign c cs then .word (String.singleton c) :: lex cs
    else
      let w := String.ofList (c :: cs.takeWhile isWordChar)
      let rest := cs.dropWhile isWordChar
      if rest.head? = some '(' then .opening w :: lex (rest.drop 1) else .word w :: lex rest
termination_by cs => cs.length
decreasing_by
  all_goals
    have word := (List.dropWhile_suffix (p := isWordChar) (l := cs)).length_le
    have quote := (List.dropWhile_suffix (p := fun c => decide (c ≠ '"')) (l := cs)).length_le
    simp only [List.length_cons, List.length_drop, ne_eq] at *
    omega

/-! ### Words -/

def isWord : List Char → Bool
  | [] => false
  | c :: cs => (c :: cs).all isWordChar && !isSign c cs

/-- A text that is read as one word, whatever breaks it off. -/
def IsWord (w : String) : Prop := isWord w.toList = true

instance : DecidablePred IsWord := fun _ => inferInstanceAs (Decidable (_ = true))

theorem isWord_cons {c : Char} {cs : List Char} :
    isWord (c :: cs) = true ↔ (∀ d ∈ c :: cs, isWordChar d) ∧ isSign c cs = false := by
  simp [isWord]

theorem IsWord.split {w : String} (word : IsWord w) : ∃ c cs, w.toList = c :: cs ∧
    (∀ d ∈ c :: cs, isWordChar d) ∧ isSign c cs = false := by
  unfold IsWord at word
  cases same : w.toList with
  | nil =>
    rw [same] at word
    cases word
  | cons c cs =>
    rw [same] at word
    exact ⟨c, cs, rfl, isWord_cons.mp word⟩

/-- What may stand behind a word: nothing, a blank or a mark other than an opening parenthesis. -/
def Breaks (rest : List Char) : Prop := ∀ c ∈ rest.head?, isWordChar c = false ∧ c ≠ '('

theorem breaks_nil : Breaks [] := nofun

theorem breaks_blank (rest : List Char) : Breaks (' ' :: rest) := by
  rintro _ ⟨⟩
  decide

theorem breaks_mark {c : Char} (mark : c ∈ marks) (other : c ≠ '(') (rest : List Char) :
    Breaks (c :: rest) := by
  rintro _ ⟨⟩
  exact ⟨by simp [isWordChar, mark], other⟩

theorem isWordChar_iff (c : Char) : isWordChar c ↔ c ≠ ' ' ∧ c ≠ '"' ∧ c ∉ marks := by
  simp [isWordChar, and_assoc]

theorem isSign_append {c : Char} {cs : List Char} (plain : isSign c cs = false) (rest : List Char) :
    isSign c (cs ++ rest) = false := by
  cases cs with
  | cons d cs => exact plain
  | nil => simp_all [isSign]

/-- The characters of a word are taken together. -/
theorem lex_front {w : String} (word : IsWord w) {rest : List Char}
    (ends : ∀ c ∈ rest.head?, isWordChar c = false) : lex (w.toList ++ rest) =
      if rest.head? = some '(' then .opening w :: lex (rest.drop 1) else .word w :: lex rest := by
  obtain ⟨c, cs, same, chars, unsigned⟩ := word.split
  obtain ⟨first, later⟩ := List.forall_mem_cons.mp chars
  obtain ⟨blank, quote, mark⟩ := (isWordChar_iff c).mp first
  have taken : (cs ++ rest).takeWhile isWordChar = cs := by
    rw [List.takeWhile_append_of_pos later]
    cases rest with
    | nil => exact List.append_nil cs
    | cons d rest => simp [ends d rfl]
  have dropped : (cs ++ rest).dropWhile isWordChar = rest := by
    rw [List.dropWhile_append_of_pos later]
    cases rest with
    | nil => rfl
    | cons d rest => simp [ends d rfl]
  have whole : String.ofList (c :: cs) = w := by rw [← same, String.ofList_toList]
  rw [same, List.cons_append, lex, if_neg blank, if_neg (by simpa using mark), if_neg quote,
    isSign_append unsigned, taken, dropped, whole, if_neg Bool.false_ne_true]

theorem lex_word {w : String} (word : IsWord w) {rest : List Char} (breaks : Breaks rest) :
    lex (w.toList ++ rest) = .word w :: lex rest := by
  rw [lex_front word fun c first => (breaks c first).1, if_neg]
  exact fun first => (breaks '(' first).2 rfl

theorem lex_opening {w : String} (word : IsWord w) (rest : List Char) :
    lex (w.toList ++ '(' :: rest) = .opening w :: lex rest := by
  rw [lex_front word (by simp; decide), if_pos List.head?_cons, List.drop_one, List.tail_cons]

theorem lex_blank (rest : List Char) : lex (' ' :: rest) = lex rest := by
  rw [lex, if_pos rfl]

theorem lex_leading (w text : String) (word : IsWord w) (spaced : text.toList = w.toList ++ [' '])
    (rest : List Char) : lex (text.toList ++ rest) = .word w :: lex rest := by
  rw [spaced, List.append_assoc, List.singleton_append, lex_word word (breaks_blank rest), lex_blank]

theorem lex_spaced (w text : String) (word : IsWord w)
    (spaced : text.toList = ' ' :: (w.toList ++ [' '])) (rest : List Char) :
    lex (text.toList ++ rest) = .word w :: lex rest := by
  rw [spaced, List.cons_append, List.append_assoc, List.singleton_append, lex_blank,
    lex_word word (breaks_blank rest), lex_blank]

theorem lex_mark {c : Char} (mark : c ∈ marks) (rest : List Char) :
    lex (c :: rest) = .mark c :: lex rest := by
  have blank : c ≠ ' ' := by
    rintro rfl
    revert mark
    decide
  rw [lex, if_neg blank, if_pos (by simpa using mark)]

theorem lex_sign {c : Char} {rest : List Char} (sign : isSign c rest) :
    lex (c :: rest) = .word (String.singleton c) :: lex rest := by
  have either : c = '+' ∨ c = '-' := by
    simp only [isSign, Bool.or_eq_true, Bool.and_eq_true, beq_iff_eq] at sign
    exact sign.imp_right And.left
  rw [lex]
  rcases either with rfl | rfl <;> simp [marks, sign]

theorem lex_quoted {s : String} (plain : '"' ∉ s.toList) (rest : List Char) :
    lex ('"' :: s.toList ++ '"' :: rest) = .quoted s :: lex rest := by
  have chars : ∀ c ∈ s.toList, decide (c ≠ '"') = true := by
    intro c member
    exact decide_eq_true fun same => plain (same ▸ member)
  rw [List.cons_append, lex, if_neg (by decide), if_neg (by decide), if_pos rfl,
    List.takeWhile_append_of_pos chars, List.dropWhile_append_of_pos chars]
  simp

end DatasetScript
