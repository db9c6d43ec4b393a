import DatasetScript.Pattern.Element
import Mathlib.Data.List.TakeWhile
import Mathlib.Tactic.SplitIfs
/-!
# Elements of patterns before a closing parenthesis

A reader takes something from the front of a text. Most readers take the same whatever comes behind; the
others look ahead, but do not tell a closing parenthesis from the end of the text. Only a comment that is
still open at the end takes the parenthesis in. Main statement: `Element.readEscape_upTo`.
-/

namespace DatasetScript

/-! ### Readers -/

/-- Nothing comes, or a closing parenthesis first. -/
inductive Closing : List Char → Prop
  | none : Closing []
  | parenthesis (more : List Char) : Closing (')' :: more)

/-- The same text up to a place where each ends or goes on with a closing parenthesis. -/
inductive Alike : List Char → List Char → Prop
  | closing {cs cs' : List Char} (first : Closing cs) (second : Closing cs') : Alike cs cs'
  | cons (c : Char) {cs cs' : List Char} (h : Alike cs cs') : Alike (c :: cs) (c :: cs')

/-- The same text up to a closing bracket. -/
inductive Bracketed : List Char → List Char → Prop
  | bracket (cs cs' : List Char) : Bracketed (']' :: cs) (']' :: cs')
  | cons (c : Char) {cs cs' : List Char} (h : Bracketed cs cs') : Bracketed (c :: cs) (c :: cs')

/-- The reader takes the same from the front whatever comes behind. -/
def SelfDelimiting {α : Type} (read : List Char → Option (α × List Char)) : Prop :=
  ∀ ⦃cs v rest⦄, read cs = some (v, rest) →
    ∃ front, cs = front ++ rest ∧ ∀ rest', read (front ++ rest') = some (v, rest')

/-- The reader takes the same from the front if what comes behind looks alike. -/
def ReadsUpTo {α : Type} (alike : α → List Char → List Char → Prop)
    (read : List Char → Option (α × List Char)) : Prop :=
  ∀ ⦃cs v rest⦄, read cs = some (v, rest) →
    ∃ front, cs = front ++ rest ∧
      ∀ rest', alike v rest rest' → read (front ++ rest') = some (v, rest')

/-- As `ReadsUpTo`, but a comment at the end may take a closing parenthesis in. -/
def ReadsUpToComment {α : Type} (alike : α → List Char → List Char → Prop)
    (read : List Char → Option (α × List Char)) : Prop :=
  ∀ ⦃cs v rest⦄, read cs = some (v, rest) → ∃ front, cs = front ++ rest ∧
    ((∀ rest', alike v rest rest' → read (front ++ rest') = some (v, rest')) ∨
      (rest = [] ∧ ∀ line, '\n' ∉ line → read (front ++ line) = some (v, [])))

section

variable {α : Type} {alike : α → List Char → List Char → Prop}
  {read : List Char → Option (α × List Char)}

theorem SelfDelimiting.upTo (h : SelfDelimiting read) (alike : α → List Char → List Char → Prop) :
    ReadsUpTo alike read := fun _ _ _ found =>
  have ⟨front, same, again⟩ := h found
  ⟨front, same, fun rest _ => again rest⟩

theorem ReadsUpTo.comment (h : ReadsUpTo alike read) : ReadsUpToComment alike read :=
  fun _ _ _ found =>
    have ⟨front, same, again⟩ := h found
    ⟨front, same, .inl again⟩

end

theorem Closing.head?_ne {cs : List Char} (closing : Closing cs) {c : Char} (other : c ≠ ')') :
    cs.head? ≠ some c := by
  cases closing with
  | none => nofun
  | parenthesis more => exact fun same => other (Option.some.inj same).symm

namespace Alike

variable {cs cs' : List Char}

theorem prepend (front : List Char) (h : Alike cs cs') : Alike (front ++ cs) (front ++ cs') := by
  induction front with
  | nil => exact h
  | cons c front ih => exact .cons c ih

theorem head?_ne (h : Alike cs cs') {c : Char} (differs : cs.head? ≠ some c) (other : c ≠ ')') :
    cs'.head? ≠ some c := by
  cases h with
  | closing _ second => exact second.head?_ne other
  | cons d _ => exact differs

end Alike

namespace Bracketed

variable {cs cs' : List Char}

theorem prepend (front : List Char) (h : Bracketed cs cs') :
    Bracketed (front ++ cs) (front ++ cs') := by
  induction front with
  | nil => exact h
  | cons c front ih => exact .cons c ih

theorem head?_eq (h : Bracketed cs cs') : cs'.head? = cs.head? := by
  cases h <;> rfl

theorem dropWhile (h : Bracketed cs cs') {p : Char → Bool} (stops : p ']' = false) :
    Bracketed (cs.dropWhile p) (cs'.dropWhile p) := by
  induction h with
  | bracket cs cs' =>
    rw [List.dropWhile_cons_of_neg (by simp [stops]), List.dropWhile_cons_of_neg (by simp [stops])]
    exact .bracket cs cs'
  | @cons c cs cs' h ih =>
    rw [List.dropWhile_cons, List.dropWhile_cons]
    split
    · exact ih
    · exact .cons c h

/-- The text in front of the first closing bracket is the same. -/
theorem front {front rest : List Char} (h : Bracketed cs (front ++ ']' :: rest)) (first : ']' ∉ front) :
    ∃ rest', cs = front ++ ']' :: rest' := by
  induction front generalizing cs with
  | nil =>
    cases h with
    | bracket cs => exact ⟨cs, rfl⟩
    | @cons _ cs => exact ⟨cs, rfl⟩
  | cons c front ih =>
    obtain ⟨here, later⟩ := List.ne_and_not_mem_of_not_mem_cons first
    cases h with
    | bracket => exact absurd rfl here
    | cons c h =>
      obtain ⟨rest', rfl⟩ := ih h later
      exact ⟨rest', rfl⟩

end Bracketed

/-- A text up to the first character that is not of a kind. -/
theorem split_of_dropWhile {p : Char → Bool} {cs more : List Char} {c : Char}
    (left : cs.dropWhile p = c :: more) : ∃ front, cs = front ++ c :: more ∧ cs.takeWhile p = front ∧
      ∀ more', (front ++ c :: more').dropWhile p = c :: more' ∧
        (front ++ c :: more').takeWhile p = front := by
  have parts := List.takeWhile_append_dropWhile (p := p) (l := cs)
  rw [left] at parts
  have stops : p c = false := by
    have first := List.head_dropWhile_not p (w := by rw [left]; exact List.cons_ne_nil c more)
    simpa only [left, List.head_cons] using first
  have inside : ∀ d ∈ cs.takeWhile p, p d = true := fun d member => List.mem_takeWhile_imp member
  refine ⟨cs.takeWhile p, parts.symm, rfl, fun more' => ⟨?_, ?_⟩⟩
  · rw [List.dropWhile_append_of_pos inside, List.dropWhile_cons_of_neg (by simp [stops])]
  · rw [List.takeWhile_append_of_pos inside, List.takeWhile_cons_of_neg (by simp [stops]), List.append_nil]

/-! ### Blanks and comments -/

namespace Options

variable {o : Options}

/-- Where something is left, no comment is open before it. -/
theorem dropBlanks_found {inComment : Bool} {cs : List Char} {c : Char} {more : List Char}
    (found : dropBlanks inComment cs = c :: more) :
    ∃ blanks, cs = blanks ++ c :: more ∧
      ∀ rest, dropBlanks inComment (blanks ++ rest) = dropBlanks false rest := by
  induction cs generalizing inComment with
  | nil => cases found
  | cons d cs ih =>
    simp only [dropBlanks] at found
    split_ifs at found with comment blank mark
    · obtain ⟨blanks, rfl, same⟩ := ih found
      refine ⟨d :: blanks, rfl, fun rest => ?_⟩
      simp only [List.cons_append, dropBlanks, if_pos comment, same]
    · obtain ⟨blanks, rfl, same⟩ := ih found
      refine ⟨d :: blanks, rfl, fun rest => ?_⟩
      simp only [List.cons_append, dropBlanks, if_neg comment, if_pos blank, same]
    · obtain ⟨blanks, rfl, same⟩ := ih found
      refine ⟨d :: blanks, rfl, fun rest => ?_⟩
      simp only [List.cons_append, dropBlanks, if_neg comment, if_neg blank, if_pos mark, same]
    · cases found
      exact ⟨[], rfl, fun rest => by rw [Bool.eq_false_iff.mpr comment, List.nil_append]⟩

/-- Where nothing is left, all that matters is whether a comment is open. -/
theorem dropBlanks_at_end {inComment : Bool} {cs : List Char} (none_left : dropBlanks inComment cs = []) :
    ∃ open_comment, ∀ rest, dropBlanks inComment (cs ++ rest) = dropBlanks open_comment rest := by
  induction cs generalizing inComment with
  | nil => exact ⟨inComment, fun _ => rfl⟩
  | cons c cs ih =>
    simp only [List.cons_append, dropBlanks] at none_left ⊢
    split_ifs at none_left ⊢
    · exact ih none_left
    · exact ih none_left
    · exact ih none_left

theorem dropBlanks_comment {line : List Char} (sameLine : '\n' ∉ line) : dropBlanks true line = [] := by
  induction line with
  | nil => rfl
  | cons c line ih =>
    obtain ⟨here, later⟩ := List.ne_and_not_mem_of_not_mem_cons sameLine
    rw [dropBlanks, if_pos rfl, bne_iff_ne.mpr here.symm]
    exact ih later

theorem dropBlanks_length_le (inComment : Bool) (cs : List Char) :
    (dropBlanks inComment cs).length ≤ cs.length := by
  induction cs generalizing inComment with
  | nil => exact Nat.le_refl _
  | cons c cs ih =>
    unfold dropBlanks
    split_ifs
    · exact Nat.le_succ_of_le (ih _)
    · exact Nat.le_succ_of_le (ih _)
    · exact Nat.le_succ_of_le (ih _)
    · exact Nat.le_refl _

@[simp] theorem skip_nil : o.skip [] = [] := by
  unfold skip
  split_ifs <;> rfl

theorem skip_found {cs : List Char} {c : Char} {more : List Char} (found : o.skip cs = c :: more) :
    ∃ blanks, cs = blanks ++ c :: more ∧ ∀ rest, o.skip (blanks ++ rest) = o.skip rest := by
  unfold skip at found ⊢
  split_ifs at found ⊢
  · exact dropBlanks_found found
  · exact ⟨[], found, fun _ => rfl⟩

theorem skip_at_end {cs : List Char} (none_left : o.skip cs = []) :
    (∀ rest, o.skip (cs ++ rest) = o.skip rest) ∨
      ∀ rest, o.skip (cs ++ rest) = dropBlanks true rest := by
  unfold skip at none_left ⊢
  split_ifs at none_left ⊢
  · obtain ⟨open_comment, same⟩ := dropBlanks_at_end none_left
    cases open_comment with
    | false => exact .inl same
    | true => exact .inr same
  · exact .inl fun _ => by rw [none_left, List.nil_append]

/-- A character that is not skipped stays whatever comes behind. -/
theorem skip_stays {c : Char} {more : List Char} (stays : o.skip (c :: more) = c :: more)
    (more' : List Char) : o.skip (c :: more') = c :: more' := by
  unfold skip at stays ⊢
  split_ifs at stays ⊢
  · have shorter {inComment} (gone : dropBlanks inComment more = c :: more) : False := by
      have short := dropBlanks_length_le inComment more
      rw [gone, List.length_cons] at short
      omega
    simp only [dropBlanks, Bool.false_eq_true, if_false] at stays ⊢
    split_ifs at stays ⊢
    · exact (shorter stays).elim
    · exact (shorter stays).elim
    · rfl
  · rfl

theorem skip_of_found {cs : List Char} {c : Char} {more : List Char} (found : o.skip cs = c :: more) :
    ∃ blanks, cs = blanks ++ c :: more ∧ ∀ more', o.skip (blanks ++ c :: more') = c :: more' := by
  obtain ⟨blanks, rfl, same⟩ := skip_found found
  exact ⟨blanks, rfl, fun more' => (same _).trans (skip_stays ((same _).symm.trans found) more')⟩

/-- Blanks before a text that goes on to a closing bracket. -/
theorem skip_bracketed {cs more : List Char} {c : Char} (found : o.skip cs = c :: more) :
    ∃ blanks, cs = blanks ++ c :: more ∧
      ∀ cs', Bracketed (c :: more) cs' → o.skip (blanks ++ cs') = cs' := by
  obtain ⟨blanks, rfl, skips⟩ := skip_of_found found
  refine ⟨blanks, rfl, fun cs' alike => ?_⟩
  obtain ⟨more', rfl⟩ := List.head?_eq_some_iff.mp alike.head?_eq
  exact skips more'

theorem skip_closing {cs : List Char} (closing : Closing cs) : o.skip cs = cs := by
  cases closing with
  | none => exact skip_nil
  | parenthesis more => unfold skip; split_ifs <;> rfl

theorem skip_alike {cs cs' : List Char} (stays : o.skip cs = cs) (h : Alike cs cs') : o.skip cs' = cs' := by
  cases h with
  | closing _ second => exact skip_closing second
  | cons c _ => exact skip_stays stays _

theorem skip_idem (cs : List Char) : o.skip (o.skip cs) = o.skip cs := by
  cases found : o.skip cs with
  | nil => exact skip_nil
  | cons c more =>
    obtain ⟨blanks, rfl, same⟩ := skip_found found
    exact (same _).symm.trans found

theorem skip_length_le (o : Options) (cs : List Char) : (o.skip cs).length ≤ cs.length := by
  unfold skip
  split
  · exact dropBlanks_length_le false cs
  · exact Nat.le_refl _

/-- What is seen ahead does not lie behind a closing bracket. -/
theorem peek_bracketed {cs cs' : List Char} (h : Bracketed cs cs') : o.peek cs' = o.peek cs := by
  unfold peek
  split_ifs
  · have ahead := h.dropWhile (p := isBlank) (by decide)
    generalize cs.dropWhile isBlank = ds at ahead ⊢
    generalize cs'.dropWhile isBlank = ds' at ahead ⊢
    cases ahead with
    | bracket => rfl
    | @cons c ds ds' ahead =>
      by_cases mark : c = '#'
      · subst mark
        exact (ahead.dropWhile (p := isBlank) (by decide)).head?_eq
      · split
        · rename_i same
          exact absurd (List.cons.inj same).1 mark
        · split
          · rename_i same
            exact absurd (List.cons.inj same).1 mark
          · rfl
  · exact h.head?_eq

/-! ### Flags and braces -/

theorem readFlags_found {on : Bool} {seen cs rest : List Char} {p : Options} {mark : Char}
    (found : o.readFlags on seen cs = some (p, mark, rest)) :
    ∃ front, cs = front ++ rest ∧
      ∀ rest', o.readFlags on seen (front ++ rest') = some (p, mark, rest') := by
  induction cs generalizing o on seen with
  | nil => cases found
  | cons c cs ih =>
    simp only [readFlags] at found
    split_ifs at found with ended early known hyphen
    · cases found
      refine ⟨[mark], rfl, fun rest' => ?_⟩
      simp only [List.cons_append, List.nil_append, readFlags, if_pos ended, if_neg early]
    · obtain ⟨front, rfl, again⟩ := ih found
      refine ⟨c :: front, rfl, fun rest' => ?_⟩
      simp only [List.cons_append, readFlags, if_neg ended, if_neg known, if_pos hyphen, again]
    · cases turned : o.put c on with
      | none => simp only [turned] at found; cases found
      | some p =>
        simp only [turned] at found
        obtain ⟨front, rfl, again⟩ := ih found
        refine ⟨c :: front, rfl, fun rest' => ?_⟩
        simp only [List.cons_append, readFlags, if_neg ended, if_neg known, if_neg hyphen, turned, again]

theorem readBraced_selfDelimiting (inComment : Bool) : SelfDelimiting (o.readBraced inComment) := by
  intro cs v rest found
  induction cs generalizing inComment v with
  | nil => cases found
  | cons c cs ih =>
    simp only [readBraced] at found
    split_ifs at found with comment blank mark brace
    · obtain ⟨front, rfl, again⟩ := ih _ found
      refine ⟨c :: front, rfl, fun rest' => ?_⟩
      simp only [List.cons_append, readBraced, if_pos comment, again]
    · obtain ⟨front, rfl, again⟩ := ih _ found
      refine ⟨c :: front, rfl, fun rest' => ?_⟩
      simp only [List.cons_append, readBraced, if_neg comment, if_pos blank, again]
    · obtain ⟨front, rfl, again⟩ := ih _ found
      refine ⟨c :: front, rfl, fun rest' => ?_⟩
      simp only [List.cons_append, readBraced, if_neg comment, if_neg blank, if_pos mark, again]
    · cases found
      refine ⟨[c], rfl, fun rest' => ?_⟩
      simp only [List.cons_append, List.nil_append, readBraced, if_neg comment, if_neg blank, if_neg mark,
        if_pos brace]
    · obtain ⟨⟨inside, after⟩, later, same⟩ := Option.map_eq_some_iff.mp found
      cases same
      obtain ⟨front, rfl, again⟩ := ih _ later
      refine ⟨c :: front, rfl, fun rest' => ?_⟩
      simp only [List.cons_append, readBraced, if_neg comment, if_neg blank, if_neg mark, if_neg brace, again,
        Option.map_some]

theorem readBraced_dropBlanks (verbose : o.verbose = true) (inComment : Bool) (cs : List Char) :
    o.readBraced inComment cs = o.readBraced false (dropBlanks inComment cs) := by
  induction cs generalizing inComment with
  | nil => rfl
  | cons c cs ih =>
    simp only [dropBlanks]
    split_ifs with comment blank mark
    · rw [readBraced, if_pos comment, ih]
    · rw [readBraced, if_neg comment, if_pos (by rw [verbose, blank]; rfl), ih]
    · rw [readBraced, if_neg comment, if_neg (by rw [verbose, Bool.true_and]; exact blank),
        if_pos (by rw [verbose, mark]; rfl), ih]
    · rw [Bool.eq_false_iff.mpr comment]

/-- Blanks in front of what stands between braces do not count. -/
theorem readBraced_skip (o : Options) (cs : List Char) :
    o.readBraced false (o.skip cs) = o.readBraced false cs := by
  unfold skip
  split_ifs with verbose
  · exact (readBraced_dropBlanks verbose false cs).symm
  · rfl

end Options

/-- Blanks that are skipped beforehand may end in a comment, which takes a closing parenthesis in. -/
theorem ReadsUpTo.skip {α : Type} {read : List Char → Option (α × List Char)}
    (h : ReadsUpTo (fun _ => Alike) read) (o : Options) :
    ReadsUpToComment (fun _ => Alike) fun cs => read (o.skip cs) := by
  intro cs v rest found
  simp only at found ⊢
  obtain ⟨front, same, again⟩ := h found
  cases skipped : o.skip cs with
  | nil =>
    obtain ⟨rfl, rfl⟩ := List.append_eq_nil_iff.mp (same.symm.trans skipped)
    refine ⟨cs, (List.append_nil cs).symm, ?_⟩
    rcases Options.skip_at_end skipped with stays | taken
    · refine .inl fun rest' alike => ?_
      rw [stays, Options.skip_alike Options.skip_nil alike]
      exact again rest' alike
    · refine .inr ⟨rfl, fun line sameLine => ?_⟩
      rw [taken, Options.dropBlanks_comment sameLine]
      rwa [skipped] at found
  | cons c more =>
    obtain ⟨blanks, rfl, skips⟩ := Options.skip_found skipped
    have stays : o.skip (front ++ rest) = front ++ rest := by
      rw [← same, Options.skip_idem]
    rw [skipped] at same
    refine ⟨blanks ++ front, by rw [same, List.append_assoc], .inl fun rest' alike => ?_⟩
    rw [List.append_assoc, skips, Options.skip_alike stays (alike.prepend front)]
    exact again rest' alike

theorem ReadsUpTo.skipWithin {α : Type} {read : List Char → Option (α × List Char)}
    (h : ReadsUpTo (fun _ => Bracketed) read) (o : Options) :
    ReadsUpTo (fun _ => Bracketed) fun cs => read (o.skip cs) := by
  intro cs v rest found
  simp only at found ⊢
  obtain ⟨front, same, again⟩ := h found
  cases skipped : o.skip cs with
  | nil =>
    obtain ⟨rfl, rfl⟩ := List.append_eq_nil_iff.mp (same.symm.trans skipped)
    exact ⟨cs, (List.append_nil cs).symm, nofun⟩
  | cons c more =>
    obtain ⟨blanks, rfl, skips⟩ := Options.skip_bracketed skipped
    rw [skipped] at same
    refine ⟨blanks ++ front, by rw [same, List.append_assoc], fun rest' alike => ?_⟩
    rw [List.append_assoc, skips _ (same ▸ alike.prepend front)]
    exact again rest' alike

/-! ### Elements -/

namespace Element

variable {o : Options}

theorem readDigits_selfDelimiting (count : Nat) : SelfDelimiting (readDigits o count) := by
  intro cs v rest found
  induction count generalizing cs v with
  | zero =>
    cases found
    exact ⟨[], rfl, fun _ => rfl⟩
  | succ count ih =>
    simp only [readDigits] at found
    cases skipped : o.skip cs with
    | nil => simp only [skipped] at found; cases found
    | cons c more =>
      simp only [skipped] at found
      obtain ⟨⟨ds, after⟩, later, same⟩ := Option.map_eq_some_iff.mp found
      cases same
      obtain ⟨blanks, rfl, skips⟩ := Options.skip_of_found skipped
      obtain ⟨front, rfl, again⟩ := ih later
      refine ⟨blanks ++ c :: front, by simp, fun rest' => ?_⟩
      simp only [List.append_assoc, List.cons_append, readDigits, skips, again, Option.map_some]

/-- The digits of a number that is not in braces. -/
theorem readNumber_digits {count : Nat} {cs : List Char} {c : Char} {more : List Char}
    (skipped : o.skip cs = c :: more) (unbraced : c ≠ '\x7b') :
    readNumber o count cs = (do
      let (ds, rest) ← readDigits o count (c :: more)
      let c ← charOfHex? ds
      if count = 2 ∧ !o.unicode ∧ c.toNat ≥ 0x80 then none else some (.literal c, rest)) := by
  unfold readNumber
  rw [skipped]
  split
  · rename_i same
    exact absurd (List.cons.inj same).1 unbraced
  · rfl

theorem readNumber_selfDelimiting {count : Nat} (some_digits : count ≠ 0) :
    SelfDelimiting (readNumber o count) := by
  intro cs v rest found
  obtain ⟨count, rfl⟩ := Nat.exists_eq_add_one_of_ne_zero some_digits
  cases skipped : o.skip cs with
  | nil =>
    unfold readNumber at found
    simp only [skipped, readDigits, Options.skip_nil] at found
    cases found
  | cons d more =>
    obtain ⟨blanks, rfl, skips⟩ := Options.skip_of_found skipped
    by_cases braced : d = '\x7b'
    · subst braced
      unfold readNumber at found ⊢
      rw [skipped] at found
      obtain ⟨⟨ds, after⟩, inside, found⟩ := Option.bind_eq_some_iff.mp found
      obtain ⟨c, number, found⟩ := Option.bind_eq_some_iff.mp found
      cases found
      obtain ⟨front, rfl, again⟩ := Options.readBraced_selfDelimiting false inside
      refine ⟨blanks ++ '\x7b' :: front, by simp, fun rest' => ?_⟩
      rw [List.append_assoc, List.cons_append, skips]
      refine Option.bind_eq_some_iff.mpr ⟨_, again rest', ?_⟩
      exact Option.bind_eq_some_iff.mpr ⟨c, number, rfl⟩
    · rw [readNumber_digits skipped braced] at found
      obtain ⟨⟨ds, after⟩, digits, found⟩ := Option.bind_eq_some_iff.mp found
      obtain ⟨c, number, found⟩ := Option.bind_eq_some_iff.mp found
      split_ifs at found with byte
      cases found
      obtain ⟨front, same, again⟩ := readDigits_selfDelimiting _ digits
      cases front with
      | nil =>
        have missing := again []
        simp only [List.nil_append, readDigits, Options.skip_nil] at missing
        cases missing
      | cons e front =>
        cases same
        refine ⟨blanks ++ d :: front, by simp, fun rest' => ?_⟩
        rw [List.append_assoc, List.cons_append, readNumber_digits (skips _) braced]
        refine Option.bind_eq_some_iff.mpr ⟨_, again rest', ?_⟩
        exact Option.bind_eq_some_iff.mpr ⟨c, number, if_neg byte⟩

theorem readProperty_selfDelimiting (negated : Bool) : SelfDelimiting (readProperty o negated) := by
  intro cs v rest found
  simp only [readProperty] at found ⊢
  split at found
  · cases found
  · rename_i more skipped
    obtain ⟨⟨ds, after⟩, inside, found⟩ := Option.bind_eq_some_iff.mp found
    obtain ⟨_, ⟨⟩, found⟩ := Option.bind_eq_some_iff.mp found
    obtain ⟨p, known, found⟩ := Option.bind_eq_some_iff.mp found
    split_ifs at found with unicode
    cases found
    obtain ⟨blanks, rfl, skips⟩ := Options.skip_of_found skipped
    obtain ⟨front, rfl, again⟩ := Options.readBraced_selfDelimiting false inside
    refine ⟨blanks ++ '\x7b' :: front, by simp, fun rest' => ?_⟩
    rw [List.append_assoc, List.cons_append, skips]
    refine Option.bind_eq_some_iff.mpr ⟨_, again rest', ?_⟩
    refine Option.bind_eq_some_iff.mpr ⟨_, rfl, ?_⟩
    exact Option.bind_eq_some_iff.mpr ⟨p, known, if_pos unicode⟩
  · rename_i c more unbraced skipped
    obtain ⟨_, ⟨⟩, found⟩ := Option.bind_eq_some_iff.mp found
    obtain ⟨p, known, found⟩ := Option.bind_eq_some_iff.mp found
    split_ifs at found with unicode
    cases found
    obtain ⟨blanks, rfl, skips⟩ := Options.skip_of_found skipped
    refine ⟨blanks ++ [c], by simp, fun rest' => ?_⟩
    rw [List.append_assoc, List.cons_append, List.nil_append, skips]
    simp only
    refine Option.bind_eq_some_iff.mpr ⟨_, rfl, ?_⟩
    exact Option.bind_eq_some_iff.mpr ⟨p, known, if_pos unicode⟩

/-- Whether a boundary is named between braces, if that can be seen. -/
def boundaryNamed? (o : Options) : List Char → Option Bool
  | '\x7b' :: rest => (o.skip rest).head?.map fun c => c.isAlpha || c == '-'
  | _ => some false

theorem boundaryNamed?_plain {cs : List Char} (plain : cs.head? ≠ some '\x7b') :
    boundaryNamed? o cs = some false := by
  unfold boundaryNamed?
  split
  · exact absurd rfl plain
  · rfl

/-- What can be seen does not lie behind a closing parenthesis. -/
theorem boundaryNamed?_append {cs closing : List Char} (seen : boundaryNamed? o cs ≠ none)
    (closes : Closing closing) : boundaryNamed? o (cs ++ closing) = boundaryNamed? o cs := by
  by_cases brace : cs.head? = some '\x7b'
  · obtain ⟨cs, rfl⟩ := List.head?_eq_some_iff.mp brace
    cases skipped : o.skip cs with
    | nil => simp [boundaryNamed?, skipped] at seen
    | cons c more =>
      obtain ⟨blanks, rfl, skips⟩ := Options.skip_of_found skipped
      simp [boundaryNamed?, skips]
  · rw [boundaryNamed?_plain brace, boundaryNamed?_plain]
    exact (Alike.prepend cs (.closing .none closes)).head?_ne (by rwa [List.append_nil]) (by decide)

theorem readBoundary_plain {cs : List Char} (plain : boundaryNamed? o cs = some false) :
    readBoundary o cs = some (.assertion (.boundary o.unicode), cs) := by
  by_cases brace : cs.head? = some '\x7b'
  · obtain ⟨cs, rfl⟩ := List.head?_eq_some_iff.mp brace
    cases skipped : o.skip cs with
    | nil => simp [boundaryNamed?, skipped] at plain
    | cons c more =>
      have unnamed : (c.isAlpha || c == '-') = false := by simpa [boundaryNamed?, skipped] using plain
      simp only [readBoundary, skipped, unnamed, Bool.false_eq_true, if_false]
  · unfold readBoundary
    simp only
    split
    · exact absurd rfl brace
    · rfl

/-- The assertion that a name between braces stands for. -/
def namedBoundary? (o : Options) (name : List Char) : Option Assertion :=
  match String.ofList name with
  | "start" => some (.wordStart o.unicode)
  | "end" => some (.wordEnd o.unicode)
  | "start-half" => some (.halfStart o.unicode)
  | "end-half" => some (.halfEnd o.unicode)
  | _ => none

theorem readBoundary_named {cs : List Char} {c : Char} {more : List Char} (skipped : o.skip cs = c :: more)
    (named : (c.isAlpha || c == '-') = true) : readBoundary o ('\x7b' :: cs) = (do
      let (name, rest) ← o.readBraced false cs
      return (.assertion (← namedBoundary? o name), rest)) := by
  simp only [readBoundary, skipped, if_pos named]
  refine congrArg (Option.bind (o.readBraced false cs)) (funext fun found => ?_)
  unfold namedBoundary?
  split <;> simp only [*]

/-- What a boundary that is not named looks ahead at. -/
def LooksAlike (o : Options) (v : Element) (rest rest' : List Char) : Prop :=
  v = .assertion (.boundary o.unicode) →
    boundaryNamed? o rest = some false → boundaryNamed? o rest' = some false

theorem boundaryNamed?_true {cs : List Char} (named : boundaryNamed? o cs = some true) :
    ∃ c blanks more, cs = '\x7b' :: (blanks ++ c :: more) ∧ (c.isAlpha || c == '-') = true ∧
      ∀ more', o.skip (blanks ++ c :: more') = c :: more' := by
  unfold boundaryNamed? at named
  split at named
  · rename_i rest
    cases skipped : o.skip rest with
    | nil => rw [skipped] at named; cases named
    | cons c more =>
      rw [skipped] at named
      obtain ⟨blanks, rfl, skips⟩ := Options.skip_of_found skipped
      exact ⟨c, blanks, more, rfl, Option.some.inj named, skips⟩
  · cases named

theorem boundaryNamed?_none {cs : List Char} (unseen : boundaryNamed? o cs = none) :
    ∃ rest, cs = '\x7b' :: rest ∧ o.skip rest = [] := by
  unfold boundaryNamed? at unseen
  split at unseen
  · rename_i rest
    exact ⟨rest, rfl, List.head?_eq_none_iff.mp (Option.map_eq_none_iff.mp unseen)⟩
  · cases unseen

theorem readBoundary_upTo : ReadsUpTo (LooksAlike o) (readBoundary o) := by
  intro cs v rest found
  cases seen : boundaryNamed? o cs with
  | none =>
    obtain ⟨rest, rfl, missing⟩ := boundaryNamed?_none seen
    simp only [readBoundary, missing] at found
    cases found
  | some named =>
    cases named with
    | false =>
      rw [readBoundary_plain seen] at found
      cases found
      exact ⟨[], rfl, fun rest' alike => readBoundary_plain (alike rfl seen)⟩
    | true =>
      obtain ⟨c, blanks, more, rfl, named, skips⟩ := boundaryNamed?_true seen
      rw [readBoundary_named (skips more) named, ← Options.readBraced_skip, skips] at found
      obtain ⟨⟨name, after⟩, inside, found⟩ := Option.bind_eq_some_iff.mp found
      obtain ⟨a, known, found⟩ := Option.bind_eq_some_iff.mp found
      cases found
      obtain ⟨front, same, again⟩ := Options.readBraced_selfDelimiting false inside
      cases front with
      | nil => cases again []
      | cons d front =>
        cases same
        refine ⟨'\x7b' :: (blanks ++ c :: front), by simp, fun rest' _ => ?_⟩
        rw [List.cons_append, List.append_assoc, List.cons_append, readBoundary_named (skips _) named,
          ← Options.readBraced_skip, skips]
        refine Option.bind_eq_some_iff.mpr ⟨_, again rest', ?_⟩
        exact Option.bind_eq_some_iff.mpr ⟨a, known, rfl⟩

/-- Most escapes are a single character. -/
theorem readEscape_single {c : Char} (single : c ∉ ['x', 'u', 'U', 'p', 'P', 'b']) (cs : List Char) :
    readEscape o (c :: cs) = (readEscape o [c]).map fun (e, _) => (e, cs) := by
  simp only [readEscape]
  split
  case h_18 =>
    split_ifs
    · cases letterClass? o c <;> rfl
    · rfl
    · rfl
  all_goals first | rfl | exact absurd (by decide) single

theorem readEscape_upTo : ReadsUpTo (LooksAlike o) (readEscape o) := by
  have onward {read : List Char → Option (Element × List Char)} (h : ReadsUpTo (LooksAlike o) read)
      {c : Char} (same : ∀ cs, readEscape o (c :: cs) = read cs) {cs v rest}
      (found : readEscape o (c :: cs) = some (v, rest)) :
      ∃ front, c :: cs = front ++ rest ∧ ∀ rest', LooksAlike o v rest rest' →
        readEscape o (front ++ rest') = some (v, rest') := by
    obtain ⟨front, rfl, again⟩ := h ((same cs).symm.trans found)
    exact ⟨c :: front, rfl, fun rest' alike => (same _).trans (again rest' alike)⟩
  have number {count : Nat} (some_digits : count ≠ 0) :=
    (readNumber_selfDelimiting (o := o) some_digits).upTo (LooksAlike o)
  intro cs v rest found
  cases cs with
  | nil => cases found
  | cons c cs =>
    by_cases single : c ∈ ['x', 'u', 'U', 'p', 'P', 'b']
    · simp only [List.mem_cons, List.not_mem_nil, or_false] at single
      rcases single with rfl | rfl | rfl | rfl | rfl | rfl
      · exact onward (number (by decide)) (fun _ => rfl) found
      · exact onward (number (by decide)) (fun _ => rfl) found
      · exact onward (number (by decide)) (fun _ => rfl) found
      · exact onward ((readProperty_selfDelimiting false).upTo _) (fun _ => rfl) found
      · exact onward ((readProperty_selfDelimiting true).upTo _) (fun _ => rfl) found
      · exact onward readBoundary_upTo (fun _ => rfl) found
    · rw [readEscape_single single] at found
      obtain ⟨⟨e, after⟩, alone, same⟩ := Option.map_eq_some_iff.mp found
      cases same
      refine ⟨[c], rfl, fun rest' _ => ?_⟩
      rw [List.cons_append, List.nil_append, readEscape_single single, alone, Option.map_some]

end Element

end DatasetScript
