import DatasetScript.Pattern.Brackets
import DatasetScript.Proofs.PatternElements
/-!
# Bracketed sets before other text

A set in brackets is read the same whatever comes behind it. What its parts look ahead at lies in front of
a closing bracket. Main statement: `Brackets.read_selfDelimiting`.
-/

namespace DatasetScript

/-! ### Parts of sets -/

theorem Element.namedCodes?_unbracketed {name : List Char} {codes : CodeSet}
    (known : namedCodes? name = some codes) : ']' ∉ name := by
  unfold namedCodes? at known
  split at known
  case h_15 => cases known
  all_goals
    rename_i same
    rw [← String.toList_ofList (l := name), same]
    decide

namespace Brackets

variable {o : Options}

theorem readElement_upTo : ReadsUpTo (Element.LooksAlike o) (readElement o) := by
  intro cs v rest found
  unfold readElement at found
  split at found
  · cases found
  · obtain ⟨front, rfl, again⟩ := Element.readEscape_upTo found
    exact ⟨'\\' :: front, rfl, again⟩
  · rename_i c cs plain
    cases found
    refine ⟨[c], rfl, fun rest' _ => ?_⟩
    simp only [List.cons_append, List.nil_append, readElement]

/-- A character or a set does not look ahead. -/
theorem readElement_front {cs rest : List Char} {e : Element} (found : readElement o cs = some (e, rest))
    {set : CharSet} (known : setOf? o e = some set) :
    ∃ front, cs = front ++ rest ∧ ∀ rest', readElement o (front ++ rest') = some (e, rest') := by
  obtain ⟨front, rfl, again⟩ := readElement_upTo found
  refine ⟨front, rfl, fun rest' => again rest' fun boundary => ?_⟩
  rw [boundary] at known
  cases known

theorem setOf?_of_charOf? {e : Element} {c : Char} (known : charOf? o e = some c) :
    ∃ set, setOf? o e = some set := by
  cases e with
  | literal d => exact ⟨.range c c, by rw [setOf?, known, Option.map_some]⟩
  | set s => cases known
  | assertion a => cases known

/-- What follows the first element of a range. -/
def readLast (o : Options) (first : Element) : List Char → Option (CharSet × List Char)
  | [] => none
  | '-' :: more =>
    if o.peek more = some ']' ∨ o.peek more = some '-' then do
      return (← setOf? o first, '-' :: more)
    else do
      let (last, rest) ← readElement o (o.skip more)
      let low ← charOf? o first
      let high ← charOf? o last
      if low ≤ high then some (.range low high, rest) else none
  | rest => do return (← setOf? o first, rest)

theorem readRange_eq (o : Options) (cs : List Char) : readRange o cs =
    (readElement o cs).bind fun (first, rest) => readLast o first (o.skip rest) := rfl

theorem readLast_other {first : Element} {c : Char} (other : c ≠ '-') (more : List Char) :
    readLast o first (c :: more) = (setOf? o first).map (·, c :: more) := by
  unfold readLast
  split
  · rename_i same
    cases same
  · rename_i same
    exact absurd (List.cons.inj same).1 other
  · cases setOf? o first <;> rfl

theorem readLast_known {first : Element} {cs rest : List Char} {v : CharSet}
    (found : readLast o first cs = some (v, rest)) : ∃ set, setOf? o first = some set := by
  unfold readLast at found
  split at found
  · cases found
  · split_ifs at found
    · obtain ⟨set, known, -⟩ := Option.bind_eq_some_iff.mp found
      exact ⟨set, known⟩
    · obtain ⟨_, -, found⟩ := Option.bind_eq_some_iff.mp found
      obtain ⟨low, known, -⟩ := Option.bind_eq_some_iff.mp found
      exact setOf?_of_charOf? known
  · obtain ⟨set, known, -⟩ := Option.bind_eq_some_iff.mp found
    exact ⟨set, known⟩

theorem readElement_ne_nil {front : List Char} {e : Element}
    (again : ∀ rest', readElement o (front ++ rest') = some (e, rest')) : ∃ c cs, front = c :: cs := by
  cases front with
  | nil => cases again []
  | cons c cs => exact ⟨c, cs, rfl⟩

theorem readLast_upTo (first : Element) : ReadsUpTo (fun _ => Bracketed) (readLast o first) := by
  intro cs v rest found
  cases cs with
  | nil => cases found
  | cons c more =>
    by_cases hyphen : c = '-'
    · subst hyphen
      simp only [readLast] at found
      split_ifs at found with ended
      · obtain ⟨_, known, same⟩ := Option.bind_eq_some_iff.mp found
        cases same
        refine ⟨[], rfl, fun rest' alike => ?_⟩
        cases alike with
        | cons _ alike =>
          rw [← Options.peek_bracketed alike] at ended
          simp only [List.nil_append, readLast, if_pos ended]
          exact Option.bind_eq_some_iff.mpr ⟨_, known, rfl⟩
      · obtain ⟨⟨last, after⟩, element, compared⟩ := Option.bind_eq_some_iff.mp found
        obtain ⟨low, lower, compared⟩ := Option.bind_eq_some_iff.mp compared
        obtain ⟨high, upper, compared⟩ := Option.bind_eq_some_iff.mp compared
        split_ifs at compared with ordered
        cases compared
        obtain ⟨_, known⟩ := setOf?_of_charOf? upper
        obtain ⟨front, same, again⟩ := readElement_front element known
        obtain ⟨d, front, rfl⟩ := readElement_ne_nil again
        obtain ⟨blanks, rfl, skips⟩ := Options.skip_of_found same
        refine ⟨'-' :: (blanks ++ d :: front), by simp, fun rest' alike => ?_⟩
        have ahead : Bracketed (blanks ++ d :: front.append after) (blanks ++ d :: (front ++ rest')) :=
          (((alike.prepend front).cons d).prepend blanks)
        rw [← Options.peek_bracketed ahead] at ended
        simp only [List.cons_append, List.append_assoc, readLast, if_neg ended, skips]
        refine Option.bind_eq_some_iff.mpr ⟨_, again rest', ?_⟩
        refine Option.bind_eq_some_iff.mpr ⟨low, lower, ?_⟩
        exact Option.bind_eq_some_iff.mpr ⟨high, upper, if_pos ordered⟩
    · rw [readLast_other hyphen] at found
      obtain ⟨set, known, same⟩ := Option.map_eq_some_iff.mp found
      cases same
      refine ⟨[], rfl, fun rest' alike => ?_⟩
      obtain ⟨more', rfl⟩ := List.head?_eq_some_iff.mp alike.head?_eq
      rw [List.nil_append, readLast_other hyphen, known, Option.map_some]

theorem readRange_front {cs rest : List Char} {v : CharSet} (found : readRange o cs = some (v, rest)) :
    ∃ c front, cs = c :: front ++ rest ∧
      ∀ rest', Bracketed rest rest' → readRange o (c :: front ++ rest') = some (v, rest') := by
  rw [readRange_eq] at found
  obtain ⟨⟨first, after⟩, element, last⟩ := Option.bind_eq_some_iff.mp found
  obtain ⟨_, known⟩ := readLast_known last
  obtain ⟨front, rfl, again⟩ := readElement_front element known
  obtain ⟨c, front, rfl⟩ := readElement_ne_nil again
  obtain ⟨behind, rfl, onward⟩ := (readLast_upTo first).skipWithin o last
  refine ⟨c, front ++ behind, by simp, fun rest' alike => ?_⟩
  rw [readRange_eq, List.cons_append, List.append_assoc]
  exact Option.bind_eq_some_iff.mpr ⟨_, again _, onward rest' alike⟩

/-- The name of a class after its opening colon, and what comes behind it. -/
def readName? (negated : Bool) (cs : List Char) : Option (CodeSet × Bool × List Char) :=
  match cs.dropWhile (· != ':') with
  | ':' :: ']' :: after =>
    (Element.namedCodes? (cs.takeWhile (· != ':'))).map (·, negated, after)
  | _ => none

theorem readNamed?_caret (cs : List Char) : readNamed? (':' :: '^' :: cs) = readName? true cs := rfl

theorem readNamed?_plain {cs : List Char} (plain : cs.head? ≠ some '^') :
    readNamed? (':' :: cs) = readName? false cs := by
  change (fun front : Bool × List Char => readName? front.1 front.2) _ = _
  split
  · exact absurd rfl plain
  · rfl

theorem readNamed?_other {cs : List Char} (other : cs.head? ≠ some ':') : readNamed? cs = none := by
  unfold readNamed?
  split
  · exact absurd rfl other
  · rfl

/-- A class by name is the same whatever comes behind its closing bracket. -/
theorem readName?_found {negated negated' : Bool} {cs rest : List Char} {codes : CodeSet}
    (found : readName? negated cs = some (codes, negated', rest)) :
    ∃ name, cs = name ++ ':' :: ']' :: rest ∧ ']' ∉ name ∧
      ∀ rest', readName? negated (name ++ ':' :: ']' :: rest') = some (codes, negated', rest') := by
  unfold readName? at found ⊢
  split at found
  · rename_i after left
    obtain ⟨_, known, same⟩ := Option.map_eq_some_iff.mp found
    cases same
    obtain ⟨name, rfl, taken, again⟩ := split_of_dropWhile left
    rw [taken] at known
    refine ⟨name, rfl, Element.namedCodes?_unbracketed known, fun rest' => ?_⟩
    rw [(again _).1, (again _).2]
    exact Option.map_eq_some_iff.mpr ⟨codes, known, rfl⟩
  · cases found

theorem readNamed?_found {negated : Bool} {cs rest : List Char} {codes : CodeSet}
    (found : readNamed? cs = some (codes, negated, rest)) :
    ∃ front, cs = front ++ ']' :: rest ∧ ']' ∉ front ∧
      ∀ rest', readNamed? (front ++ ']' :: rest') = some (codes, negated, rest') := by
  by_cases colon : cs.head? = some ':'
  · obtain ⟨cs, rfl⟩ := List.head?_eq_some_iff.mp colon
    by_cases caret : cs.head? = some '^'
    · obtain ⟨cs, rfl⟩ := List.head?_eq_some_iff.mp caret
      rw [readNamed?_caret] at found
      obtain ⟨name, rfl, unbracketed, again⟩ := readName?_found found
      refine ⟨':' :: '^' :: (name ++ [':']), by simp, by simp [unbracketed], fun rest' => ?_⟩
      simp only [List.cons_append, List.append_assoc, List.nil_append, readNamed?_caret, again]
    · rw [readNamed?_plain caret] at found
      obtain ⟨name, rfl, unbracketed, again⟩ := readName?_found found
      refine ⟨':' :: (name ++ [':']), by simp, by simp [unbracketed], fun rest' => ?_⟩
      have plain : (name ++ ':' :: ']' :: rest').head? ≠ some '^' := by
        cases name with
        | nil => simp
        | cons c name => simpa using caret
      simp only [List.cons_append, List.append_assoc, List.nil_append]
      rw [readNamed?_plain plain, again]
  · rw [readNamed?_other colon] at found
    cases found

theorem readNamed?_bracketed {cs cs' : List Char} (alike : Bracketed cs cs')
    (unnamed : readNamed? cs = none) : readNamed? cs' = none := by
  refine Option.eq_none_iff_forall_ne_some.mpr fun ⟨codes, negated, rest⟩ found => ?_
  obtain ⟨front, rfl, unbracketed, again⟩ := readNamed?_found found
  obtain ⟨rest', rfl⟩ := alike.front unbracketed
  rw [again] at unnamed
  cases unnamed

theorem readHyphens_other {c : Char} (other : c ≠ '-') (fuel : Nat) (s : OpenSet) (rest : List Char) :
    readHyphens o fuel s (c :: rest) = (s, c :: rest) := by
  cases fuel with
  | zero => rfl
  | succ fuel => simp [readHyphens, other]

/-- The hyphens at the front are no more than the characters, so that more fuel changes nothing. -/
theorem readHyphens_front {fuel : Nat} {s s' : OpenSet} {cs rest : List Char}
    (found : readHyphens o fuel s cs = (s', rest)) (enough : cs.length ≤ fuel) :
    ∃ front, cs = front ++ rest ∧
      ∀ rest', Bracketed rest rest' → ∀ fuel', (front ++ rest').length ≤ fuel' →
        readHyphens o fuel' s (front ++ rest') = (s', rest') := by
  induction fuel generalizing s cs with
  | zero =>
    obtain rfl := List.length_eq_zero_iff.mp (Nat.le_zero.mp enough)
    cases found
    exact ⟨[], rfl, nofun⟩
  | succ fuel ih =>
    cases cs with
    | nil =>
      cases found
      exact ⟨[], rfl, nofun⟩
    | cons c cs =>
      by_cases hyphen : c = '-'
      · subst hyphen
        rw [readHyphens] at found
        have short := Options.skip_length_le o cs
        rw [List.length_cons] at enough
        obtain ⟨front, same, again⟩ := ih found (by omega)
        cases skipped : o.skip cs with
        | nil =>
          obtain ⟨rfl, rfl⟩ := List.append_eq_nil_iff.mp (same.symm.trans skipped)
          exact ⟨'-' :: cs, by simp, nofun⟩
        | cons d more =>
          obtain ⟨blanks, rfl, skips⟩ := Options.skip_bracketed skipped
          rw [skipped] at same
          refine ⟨'-' :: (blanks ++ front), by rw [same]; simp, fun rest' alike fuel' enough' => ?_⟩
          simp only [List.cons_append, List.append_assoc, List.length_cons, List.length_append] at enough'
          obtain ⟨fuel', rfl⟩ := Nat.exists_eq_add_one_of_ne_zero (by omega : fuel' ≠ 0)
          rw [List.cons_append, List.append_assoc, readHyphens, skips _ (same ▸ alike.prepend front)]
          exact again rest' alike fuel' (by rw [List.length_append]; omega)
      · rw [readHyphens_other hyphen] at found
        cases found
        refine ⟨[], rfl, fun rest' alike fuel' _ => ?_⟩
        obtain ⟨more', rfl⟩ := List.head?_eq_some_iff.mp alike.head?_eq
        exact readHyphens_other hyphen ..

/-- What follows the hyphens at the front of a set. -/
def readFirst (s : OpenSet) (cs : List Char) : OpenSet × List Char :=
  match s.sets, cs with
  | [], ']' :: rest => (s.add (.range ']' ']'), rest)
  | _, cs => (s, cs)

def readFront (o : Options) (negated : Bool) (cs : List Char) : OpenSet × List Char :=
  let (s, cs) := readHyphens o cs.length ⟨negated, none, []⟩ cs
  readFirst s cs

/-- A set after its opening bracket and the blanks behind it. -/
def readMarked (o : Options) : List Char → OpenSet × List Char
  | '^' :: rest => readFront o true (o.skip rest)
  | cs => readFront o false cs

theorem readOpening_eq (o : Options) (cs : List Char) : readOpening o cs = readMarked o (o.skip cs) := by
  change (fun front : Bool × List Char => readFront o front.1 front.2) _ = _
  unfold readMarked
  split <;> simp only [*]

theorem readFirst_upTo (s : OpenSet) : ReadsUpTo (fun _ => Bracketed) fun cs => some (readFirst s cs) := by
  intro cs v rest found
  replace found := Option.some.inj found
  by_cases literal : s.sets = [] ∧ cs.head? = some ']'
  · obtain ⟨empty, bracket⟩ := literal
    obtain ⟨cs, rfl⟩ := List.head?_eq_some_iff.mp bracket
    simp only [readFirst, empty] at found ⊢
    cases found
    exact ⟨[']'], rfl, fun _ _ => rfl⟩
  · have unread {cs : List Char} (other : ¬(s.sets = [] ∧ cs.head? = some ']')) :
        readFirst s cs = (s, cs) := by
      unfold readFirst
      split
      · rename_i empty
        exact absurd ⟨empty, rfl⟩ other
      · rfl
    rw [unread literal] at found
    cases found
    refine ⟨[], rfl, fun rest' alike => congrArg some (unread ?_)⟩
    rwa [List.nil_append, alike.head?_eq]

theorem readFront_upTo (negated : Bool) :
    ReadsUpTo (fun _ => Bracketed) fun cs => some (readFront o negated cs) := by
  intro cs v rest found
  replace found := Option.some.inj found
  unfold readFront at found ⊢
  cases read : readHyphens o cs.length ⟨negated, none, []⟩ cs with
  | mk s after =>
    rw [read] at found
    obtain ⟨hyphens, rfl, again⟩ := readHyphens_front read (Nat.le_refl _)
    obtain ⟨first, rfl, onward⟩ := readFirst_upTo s (congrArg some found)
    refine ⟨hyphens ++ first, by rw [List.append_assoc], fun rest' alike => ?_⟩
    simp only [List.append_assoc, again _ (alike.prepend first) _ (Nat.le_refl _)]
    exact onward rest' alike

theorem readMarked_plain {cs : List Char} (plain : cs.head? ≠ some '^') :
    readMarked o cs = readFront o false cs := by
  unfold readMarked
  split
  · exact absurd rfl plain
  · rfl

theorem readMarked_upTo : ReadsUpTo (fun _ => Bracketed) fun cs => some (readMarked o cs) := by
  intro cs v rest found
  by_cases caret : cs.head? = some '^'
  · obtain ⟨cs, rfl⟩ := List.head?_eq_some_iff.mp caret
    obtain ⟨front, rfl, again⟩ := (readFront_upTo true).skipWithin o found
    exact ⟨'^' :: front, rfl, again⟩
  · simp only [readMarked_plain caret] at found
    obtain ⟨front, rfl, again⟩ := readFront_upTo false found
    refine ⟨front, rfl, fun rest' alike => ?_⟩
    have plain : (front ++ rest').head? ≠ some '^' := by rwa [(alike.prepend front).head?_eq]
    simp only [readMarked_plain plain]
    exact again rest' alike

theorem readOpening_upTo : ReadsUpTo (fun _ => Bracketed) fun cs => some (readOpening o cs) := by
  simp only [readOpening_eq]
  exact readMarked_upTo.skipWithin o

/-! ### Rounds

The sets that are open are taken together with the characters that are left: a round takes some of these
from the front and leaves other sets open. -/

/-- A round takes the characters and goes on in another state, whatever comes behind the closing bracket. -/
structure Round (o : Options) (taken after : List Char) (s : OpenSet) (outer : List OpenSet) (s' : OpenSet)
    (outer' : List OpenSet) : Prop where
  some_taken : taken ≠ []
  goesOn : ∀ fuel cs', Bracketed after cs' →
    readSets o (fuel + 1) s outer (taken ++ cs') = readSets o fuel s' outer' cs'

/-- A class, a character or a range stands ahead, as two characters show. -/
def RangeAhead (c : Char) (next : Option Char) : Prop :=
  c ≠ '[' ∧ c ≠ ']' ∧ ¬(next = some c ∧ (c = '&' ∨ c = '-' ∨ c = '~'))

section

variable {s : OpenSet} {outer : List OpenSet} {fuel : Nat} {set : CharSet} {blanks more rest : List Char}

theorem readSets_range {cs : List Char} {c : Char} (skipped : o.skip cs = c :: more)
    (ahead : RangeAhead c more.head?) (fuel : Nat) :
    readSets o (fuel + 1) s outer cs =
      (readRange o (c :: more)).bind fun (set, rest) => readSets o fuel (s.add set) outer rest := by
  obtain ⟨opening, closing, operation⟩ := ahead
  rw [readSets, skipped]
  split
  case h_7 => rfl
  all_goals
    rename_i same
    cases same
  · exact absurd rfl opening
  · exact absurd rfl closing
  all_goals exact absurd ⟨rfl, by decide⟩ operation

theorem readSets_operation {c : Char} (mark : c = '&' ∨ c = '-' ∨ c = '~') :
    ∃ op, ∀ {s : OpenSet} {outer : List OpenSet} {cs more : List Char} {fuel : Nat},
      o.skip cs = c :: c :: more →
        readSets o (fuel + 1) s outer cs = readSets o fuel (s.operate o.folding op) outer more := by
  rcases mark with rfl | rfl | rfl
  · exact ⟨.intersection, fun skipped => by simp only [readSets, skipped]⟩
  · exact ⟨.difference, fun skipped => by simp only [readSets, skipped]⟩
  · exact ⟨.symmetricDifference, fun skipped => by simp only [readSets, skipped]⟩

theorem Round.range {c : Char} {item : CharSet} {after : List Char}
    (skips : ∀ more, o.skip (blanks ++ c :: more) = c :: more) (ahead : RangeAhead c more.head?)
    (range : readRange o (c :: more) = some (item, after)) :
    ∃ taken, blanks ++ c :: more = taken ++ after ∧ Round o taken after s outer (s.add item) outer := by
  obtain ⟨d, front, same, again⟩ := readRange_front range
  obtain ⟨rfl, rfl⟩ := List.cons.inj same
  refine ⟨blanks ++ c :: front, by simp, by simp, fun fuel cs' alike => ?_⟩
  have ahead' : RangeAhead c (front ++ cs').head? := by
    rwa [(alike.prepend front).head?_eq]
  rw [List.append_assoc, List.cons_append, readSets_range (skips _) ahead', ← List.cons_append,
    again cs' alike, Option.bind_some]

/-- A class by its name, or a set inside the set. -/
theorem readSets_opening (skips : ∀ more, o.skip (blanks ++ '[' :: more) = '[' :: more)
    (found : readSets o (fuel + 1) s outer (blanks ++ '[' :: more) = some (set, rest)) :
    ∃ taken after s' outer', blanks ++ '[' :: more = taken ++ after ∧
      Round o taken after s outer s' outer' ∧ readSets o fuel s' outer' after = some (set, rest) := by
  simp only [readSets, skips] at found
  cases named : readNamed? more with
  | some named_class =>
    obtain ⟨codes, negated, after⟩ := named_class
    simp only [named] at found
    obtain ⟨basic, known, later⟩ := Option.bind_eq_some_iff.mp found
    obtain ⟨front, rfl, -, again⟩ := readNamed?_found named
    refine ⟨blanks ++ '[' :: (front ++ [']']), after, _, _, by simp, ⟨by simp, fun fuel cs' _ => ?_⟩, later⟩
    simp only [List.append_assoc, List.cons_append, List.nil_append, readSets, skips, again, known,
      Option.bind_eq_bind, Option.bind_some]
  | none =>
    simp only [named] at found
    cases opened : readOpening o more with
    | mk inner after =>
      rw [opened] at found
      obtain ⟨front, rfl, again⟩ := readOpening_upTo (congrArg some opened)
      refine ⟨blanks ++ '[' :: front, after, _, _, by simp, ⟨by simp, fun fuel cs' alike => ?_⟩, found⟩
      simp only [List.append_assoc, List.cons_append, readSets, skips,
        readNamed?_bracketed (alike.prepend front) named, Option.some.inj (again cs' alike)]

/-- The bracket closes the outermost set, and nothing is read on, or a set inside another. -/
theorem readSets_closing (skips : ∀ more, o.skip (blanks ++ ']' :: more) = ']' :: more)
    (found : readSets o (fuel + 1) s outer (blanks ++ ']' :: more) = some (set, rest)) :
    (more = rest ∧ ∀ fuel rest',
        readSets o (fuel + 1) s outer (blanks ++ ']' :: rest') = some (set, rest')) ∨
      ∃ s' outer', Round o (blanks ++ [']']) more s outer s' outer' ∧
        readSets o fuel s' outer' more = some (set, rest) := by
  simp only [readSets, skips] at found
  obtain ⟨closed, known, found⟩ := Option.bind_eq_some_iff.mp found
  cases outer with
  | nil =>
    cases found
    refine .inl ⟨rfl, fun fuel rest' => ?_⟩
    simp only [readSets, skips]
    exact Option.bind_eq_some_iff.mpr ⟨_, known, rfl⟩
  | cons parent outer =>
    refine .inr ⟨_, _, ⟨by simp, fun fuel cs' _ => ?_⟩, found⟩
    simp only [List.append_assoc, List.cons_append, List.nil_append, readSets, skips, known,
      Option.bind_eq_bind, Option.bind_some]

theorem Round.operation {c : Char} (mark : c = '&' ∨ c = '-' ∨ c = '~')
    (skips : ∀ more, o.skip (blanks ++ c :: more) = c :: more) :
    ∃ s', Round o (blanks ++ [c, c]) more s outer s' outer ∧
      ∀ fuel, readSets o (fuel + 1) s outer (blanks ++ c :: c :: more) = readSets o fuel s' outer more := by
  obtain ⟨op, operates⟩ := readSets_operation (o := o) mark
  refine ⟨s.operate o.folding op, ⟨by simp, fun fuel cs' _ => ?_⟩, fun fuel => operates (skips _)⟩
  rw [List.append_assoc]
  exact operates (skips _)

/-- The last round takes the closing bracket, and any other goes on. -/
theorem readSets_cases {cs : List Char} (found : readSets o (fuel + 1) s outer cs = some (set, rest)) :
    (∃ blanks, cs = blanks ++ ']' :: rest ∧ ∀ fuel rest',
        readSets o (fuel + 1) s outer (blanks ++ ']' :: rest') = some (set, rest')) ∨
      ∃ taken after s' outer', cs = taken ++ after ∧ Round o taken after s outer s' outer' ∧
        readSets o fuel s' outer' after = some (set, rest) := by
  cases skipped : o.skip cs with
  | nil =>
    simp only [readSets, skipped] at found
    cases found
  | cons c more =>
    obtain ⟨blanks, rfl, skips⟩ := Options.skip_of_found skipped
    by_cases ahead : RangeAhead c more.head?
    · rw [readSets_range skipped ahead] at found
      obtain ⟨⟨item, after⟩, range, later⟩ := Option.bind_eq_some_iff.mp found
      obtain ⟨taken, same, round⟩ := Round.range skips ahead range
      exact .inr ⟨taken, after, _, _, same, round, later⟩
    by_cases opening : c = '['
    · subst opening
      exact .inr (readSets_opening skips found)
    by_cases closing : c = ']'
    · subst closing
      rcases readSets_closing skips found with ⟨rfl, last⟩ | ⟨s', outer', round, later⟩
      · exact .inl ⟨blanks, rfl, last⟩
      · exact .inr ⟨_, more, s', outer', by simp, round, later⟩
    · have operation : more.head? = some c ∧ (c = '&' ∨ c = '-' ∨ c = '~') :=
        by_contra fun plain => ahead ⟨opening, closing, plain⟩
      obtain ⟨doubled, mark⟩ := operation
      obtain ⟨after, rfl⟩ := List.head?_eq_some_iff.mp doubled
      obtain ⟨s', round, goes⟩ := Round.operation mark skips
      exact .inr ⟨_, after, s', outer, by simp, round, (goes fuel).symm.trans found⟩

/-- Each round takes a character, so that fuel for all of them is enough. -/
theorem readSets_front {cs : List Char} (found : readSets o fuel s outer cs = some (set, rest)) :
    ∃ front, cs = front ++ ']' :: rest ∧ ∀ rest' fuel', front.length < fuel' →
      readSets o fuel' s outer (front ++ ']' :: rest') = some (set, rest') := by
  induction fuel generalizing s outer cs with
  | zero => cases found
  | succ fuel ih =>
    rcases readSets_cases found with ⟨blanks, rfl, last⟩ | ⟨taken, after, s', outer', rfl, round, later⟩
    · refine ⟨blanks, rfl, fun rest' fuel' enough => ?_⟩
      obtain ⟨fuel', rfl⟩ := Nat.exists_eq_add_one_of_ne_zero (by omega : fuel' ≠ 0)
      exact last fuel' rest'
    · obtain ⟨front, rfl, again⟩ := ih later
      refine ⟨taken ++ front, by rw [List.append_assoc], fun rest' fuel' enough => ?_⟩
      have positive := List.length_pos_iff.mpr round.some_taken
      rw [List.length_append] at enough
      obtain ⟨fuel', rfl⟩ := Nat.exists_eq_add_one_of_ne_zero (by omega : fuel' ≠ 0)
      rw [List.append_assoc, round.goesOn fuel' _ ((Bracketed.bracket rest rest').prepend front)]
      exact again rest' fuel' (by omega)

end

theorem read_selfDelimiting : SelfDelimiting (read o) := by
  intro cs v rest found
  unfold read at found ⊢
  cases opened : readOpening o cs with
  | mk s after =>
    rw [opened] at found
    obtain ⟨front, rfl, again⟩ := readOpening_upTo (congrArg some opened)
    obtain ⟨sets, rfl, onward⟩ := readSets_front found
    refine ⟨front ++ sets ++ [']'], by simp, fun rest' => ?_⟩
    have reopened := Option.some.inj (again _ ((Bracketed.bracket rest rest').prepend sets))
    simp only [List.append_assoc, List.cons_append, List.nil_append, reopened]
    exact onward rest' _ (by rw [List.length_append]; omega)

end Brackets

end DatasetScript
