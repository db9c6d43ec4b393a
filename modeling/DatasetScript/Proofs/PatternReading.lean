import DatasetScript.Pattern.Reader
import DatasetScript.Proofs.PatternBrackets
import DatasetScript.Proofs.PatternMeaning
/-!
# Reading patterns within groups

A pattern reads within further groups and before a closing parenthesis as it reads alone, unless it ends
in a comment; and what has been read when a group around is closed reads alone. What is read is
well-formed. Main statements: `PatternReader.run_within`, `PatternReader.run_closed` and
`PatternReader.run_wellFormed`.
-/

namespace DatasetScript

/-! ### Steps -/

namespace PatternReader

variable {s s' : PatternReader}

theorem readLazy_plain {cs : List Char} (plain : cs.head? ≠ some '?') : readLazy cs = (true, cs) := by
  unfold readLazy
  split
  · exact absurd rfl plain
  · rfl

theorem readRepetition_eq (s : PatternReader) (least : Nat) (most : Option Nat) (cs : List Char) :
    s.readRepetition least most cs =
      (s.branches.repeatLast? least most ((readLazy cs).1 != s.options.lazily)).map fun branches =>
        ({ s with branches }, (readLazy cs).2) := by
  change Option.bind (Option.bind (s.branches.repeatLast? least most
    ((readLazy cs).1 != s.options.lazily)) _) _ = _
  cases s.branches.repeatLast? least most ((readLazy cs).1 != s.options.lazily) <;> rfl

theorem readRepetition_upTo (s : PatternReader) (least : Nat) (most : Option Nat) :
    ReadsUpTo (fun _ => Alike) (s.readRepetition least most) := by
  intro cs v rest found
  rw [readRepetition_eq] at found
  obtain ⟨branches, repeated, same⟩ := Option.map_eq_some_iff.mp found
  by_cases marked : cs.head? = some '?'
  · obtain ⟨cs, rfl⟩ := List.head?_eq_some_iff.mp marked
    cases same
    exact ⟨['?'], rfl, fun _ _ =>
      (readRepetition_eq ..).trans (Option.map_eq_some_iff.mpr ⟨branches, repeated, rfl⟩)⟩
  · rw [readLazy_plain marked] at repeated same
    cases same
    refine ⟨[], rfl, fun rest' alike => ?_⟩
    rw [List.nil_append, readRepetition_eq, readLazy_plain (alike.head?_ne marked (by decide)), repeated,
      Option.map_some]

theorem readCounted_upTo (s : PatternReader) : ReadsUpToComment (fun _ => Alike) s.readCounted := by
  intro cs v rest found
  obtain ⟨⟨inside, after⟩, braced, counted⟩ := Option.bind_eq_some_iff.mp found
  obtain ⟨⟨least, most⟩, bounds, repeated⟩ := Option.bind_eq_some_iff.mp counted
  obtain ⟨front, rfl, again⟩ := Options.readBraced_selfDelimiting false braced
  obtain ⟨behind, rfl, onward⟩ := (readRepetition_upTo s least most).skip s.options repeated
  have reread {cs' v'} (h : s.readRepetition least most (s.options.skip cs') = some v') :
      s.readCounted (front ++ cs') = some v' :=
    Option.bind_eq_some_iff.mpr ⟨_, again cs', Option.bind_eq_some_iff.mpr ⟨_, bounds, h⟩⟩
  refine ⟨front ++ behind, by rw [List.append_assoc], ?_⟩
  rcases onward with stays | ⟨ended, taken⟩
  · refine .inl fun rest' alike => ?_
    rw [List.append_assoc]
    exact reread (stays rest' alike)
  · refine .inr ⟨ended, fun line sameLine => ?_⟩
    rw [List.append_assoc]
    exact reread (taken line sameLine)

theorem readNamedGroup_selfDelimiting (s : PatternReader) : SelfDelimiting s.readNamedGroup := by
  intro cs v rest found
  unfold readNamedGroup at found ⊢
  simp only at found ⊢
  cases left : cs.dropWhile (· != '>') with
  | nil =>
    rw [left] at found
    split at found
    · rename_i same
      cases same
    · cases found
  | cons c more =>
    obtain ⟨name, rfl, taken, again⟩ := split_of_dropWhile left
    rw [left, taken] at found
    cases name with
    | nil => cases found
    | cons d others =>
      simp only at found
      split_ifs at found with fresh
      cases found
      refine ⟨d :: others ++ [c], by simp, fun rest' => ?_⟩
      have whole : d :: others ++ [c] ++ rest' = d :: others ++ c :: rest' := by simp
      rw [whole, (again rest').1, (again rest').2]
      exact if_pos fresh

/-- A group with flags after its question mark. -/
def readFlagged (s : PatternReader) (cs : List Char) : Option (PatternReader × List Char) := do
  let (options, mark, rest) ← s.options.readFlags true [] cs
  if mark = ')' then return ({ s with options }.push .empty, rest)
  else return (s.openGroup none options, rest)

/-- A group after its opening parenthesis and the blanks behind it. -/
def readOpened (s : PatternReader) (cs : List Char) : Option (PatternReader × List Char) :=
  match cs with
  | '?' :: 'P' :: '<' :: rest => s.readNamedGroup rest
  | '?' :: '<' :: '=' :: _ | '?' :: '<' :: '!' :: _ => none
  | '?' :: '<' :: rest => s.readNamedGroup rest
  | '?' :: rest => s.readFlagged rest
  | rest => some (s.openCapture, rest)

theorem readGroup_eq (s : PatternReader) (cs : List Char) :
    s.readGroup cs = s.readOpened (s.options.skip cs) := rfl

theorem readFlagged_selfDelimiting (s : PatternReader) : SelfDelimiting s.readFlagged := by
  intro cs v rest found
  obtain ⟨⟨options, mark, after⟩, flags, opened⟩ := Option.bind_eq_some_iff.mp found
  obtain ⟨front, rfl, again⟩ := Options.readFlags_found flags
  simp only at opened
  split_ifs at opened with closed
  · cases opened
    exact ⟨front, rfl, fun rest' => Option.bind_eq_some_iff.mpr ⟨_, again rest', if_pos closed⟩⟩
  · cases opened
    exact ⟨front, rfl, fun rest' => Option.bind_eq_some_iff.mpr ⟨_, again rest', if_neg closed⟩⟩

theorem readOpened_name {cs : List Char} (ahead : cs.head? ≠ some '=') (negative : cs.head? ≠ some '!') :
    s.readOpened ('?' :: '<' :: cs) = s.readNamedGroup cs := by
  cases cs with
  | nil => rfl
  | cons c cs =>
    have ahead : c ≠ '=' := fun same => ahead (congrArg some same)
    have negative : c ≠ '!' := fun same => negative (congrArg some same)
    simp [readOpened, ahead, negative]

theorem readOpened_flagged {c : Char} (unnamed : c ≠ 'P') (plain : c ≠ '<') (cs : List Char) :
    s.readOpened ('?' :: c :: cs) = s.readFlagged (c :: cs) := by
  simp [readOpened, unnamed, plain]

theorem readOpened_letter {cs : List Char} (plain : cs.head? ≠ some '<') :
    s.readOpened ('?' :: 'P' :: cs) = none := by
  cases cs with
  | nil => rfl
  | cons c cs =>
    have plain : c ≠ '<' := fun same => plain (congrArg some same)
    simp [readOpened, readFlagged, plain, Options.readFlags, Options.put]

theorem readOpened_plain {cs : List Char} (plain : cs.head? ≠ some '?') :
    s.readOpened cs = some (s.openCapture, cs) := by
  unfold readOpened
  split <;> first | exact absurd rfl plain | rfl

theorem readOpened_upTo (s : PatternReader) : ReadsUpTo (fun _ => Alike) s.readOpened := by
  intro cs v rest found
  by_cases marked : cs.head? = some '?'
  · obtain ⟨cs, rfl⟩ := List.head?_eq_some_iff.mp marked
    cases cs with
    | nil => cases found
    | cons c cs =>
      by_cases angle : c = '<'
      · subst angle
        by_cases ahead : cs.head? = some '='
        · obtain ⟨cs, rfl⟩ := List.head?_eq_some_iff.mp ahead
          cases found
        by_cases negative : cs.head? = some '!'
        · obtain ⟨cs, rfl⟩ := List.head?_eq_some_iff.mp negative
          cases found
        rw [readOpened_name ahead negative] at found
        obtain ⟨front, rfl, again⟩ := readNamedGroup_selfDelimiting s found
        cases front with
        | nil => cases again []
        | cons d front =>
          refine ⟨'?' :: '<' :: d :: front, rfl, fun rest' _ => ?_⟩
          refine (readOpened_name ?_ ?_).trans (again rest')
          · exact ahead
          · exact negative
      · by_cases named : c = 'P'
        · subst named
          by_cases angle : cs.head? = some '<'
          · obtain ⟨cs, rfl⟩ := List.head?_eq_some_iff.mp angle
            obtain ⟨front, rfl, again⟩ := readNamedGroup_selfDelimiting s found
            exact ⟨'?' :: 'P' :: '<' :: front, rfl, fun rest' _ => again rest'⟩
          · rw [readOpened_letter angle] at found
            cases found
        · rw [readOpened_flagged named angle] at found
          obtain ⟨front, same, again⟩ := readFlagged_selfDelimiting s found
          cases front with
          | nil => cases again []
          | cons d front =>
            cases same
            exact ⟨'?' :: c :: front, rfl, fun rest' _ =>
              (readOpened_flagged named angle _).trans (again rest')⟩
  · rw [readOpened_plain marked] at found
    cases found
    exact ⟨[], rfl, fun rest' alike => readOpened_plain (alike.head?_ne marked (by decide))⟩

/-- What comes behind a step looks alike to it, and to a boundary that has been read. -/
structure Onward (s : PatternReader) (rest rest' : List Char) : Prop where
  alike : Alike rest rest'
  boundary : Element.boundaryNamed? s.options rest = some false →
    Element.boundaryNamed? s.options rest' = some false

theorem step_upTo (s : PatternReader) (c : Char) : ReadsUpToComment Onward (s.step c) := by
  intro cs v rest found
  have alike {read : List Char → Option (PatternReader × List Char)}
      (h : ReadsUpToComment (fun _ => Alike) read) (found : read cs = some (v, rest)) :
      ∃ front, cs = front ++ rest ∧
        ((∀ rest', Onward v rest rest' → read (front ++ rest') = some (v, rest')) ∨
          (rest = [] ∧ ∀ line, '\n' ∉ line → read (front ++ line) = some (v, []))) := by
    obtain ⟨front, rfl, again⟩ := h found
    exact ⟨front, rfl, again.imp_left fun stays rest' onward => stays rest' onward.alike⟩
  unfold step at found ⊢
  split at found
  · exact alike ((readOpened_upTo s).skip s.options) found
  · obtain ⟨_, closed, same⟩ := Option.bind_eq_some_iff.mp found
    cases same
    exact ⟨[], rfl, .inl fun _ _ => Option.bind_eq_some_iff.mpr ⟨_, closed, rfl⟩⟩
  · cases found
    exact ⟨[], rfl, .inl fun _ _ => rfl⟩
  · obtain ⟨⟨_, after⟩, read, same⟩ := Option.bind_eq_some_iff.mp found
    cases same
    obtain ⟨front, rfl, again⟩ := Brackets.read_selfDelimiting read
    exact ⟨front, rfl, .inl fun rest' _ => Option.bind_eq_some_iff.mpr ⟨_, again rest', rfl⟩⟩
  · exact alike (readRepetition_upTo s _ _).comment found
  · exact alike (readRepetition_upTo s _ _).comment found
  · exact alike (readRepetition_upTo s _ _).comment found
  · exact alike (readCounted_upTo s) found
  · obtain ⟨_, dot, same⟩ := Option.bind_eq_some_iff.mp found
    cases same
    exact ⟨[], rfl, .inl fun _ _ => Option.bind_eq_some_iff.mpr ⟨_, dot, rfl⟩⟩
  · cases found
    exact ⟨[], rfl, .inl fun _ _ => rfl⟩
  · cases found
    exact ⟨[], rfl, .inl fun _ _ => rfl⟩
  · obtain ⟨⟨e, after⟩, read, same⟩ := Option.bind_eq_some_iff.mp found
    cases same
    obtain ⟨front, rfl, again⟩ := Element.readEscape_upTo read
    refine ⟨front, rfl, .inl fun rest' onward => ?_⟩
    exact Option.bind_eq_some_iff.mpr ⟨_, again rest' fun _ => onward.boundary, rfl⟩
  · cases found
    exact ⟨[], rfl, .inl fun _ _ => rfl⟩

/-! ### Groups around a pattern -/

/-- The reader within further open groups. -/
def within (s : PatternReader) (groups : List OpenGroup) : PatternReader :=
  { s with outer := s.outer ++ groups }

theorem readRepetition_within (least : Nat) (most : Option Nat) (cs : List Char) (groups : List OpenGroup) :
    (s.within groups).readRepetition least most cs =
      (s.readRepetition least most cs).map fun (s, rest) => (s.within groups, rest) := by
  rw [readRepetition_eq, readRepetition_eq, Option.map_map]
  rfl

theorem readCounted_within (cs : List Char) (groups : List OpenGroup) :
    (s.within groups).readCounted cs =
      (s.readCounted cs).map fun (s, rest) => (s.within groups, rest) := by
  change Option.bind (s.options.readBraced false cs) _ =
    Option.map _ (Option.bind (s.options.readBraced false cs) _)
  cases s.options.readBraced false cs with
  | none => rfl
  | some braced =>
    change Option.bind (bounds? braced.1) _ = Option.map _ (Option.bind (bounds? braced.1) _)
    cases bounds? braced.1 with
    | none => rfl
    | some bounds => exact readRepetition_within ..

theorem readNamedGroup_within (cs : List Char) (groups : List OpenGroup) :
    (s.within groups).readNamedGroup cs =
      (s.readNamedGroup cs).map fun (s, rest) => (s.within groups, rest) := by
  unfold readNamedGroup
  simp only
  split
  · refine Eq.trans ?_ (apply_ite (Option.map _) _ _ _).symm
    rfl
  · rfl

theorem readFlagged_within (cs : List Char) (groups : List OpenGroup) :
    (s.within groups).readFlagged cs =
      (s.readFlagged cs).map fun (s, rest) => (s.within groups, rest) := by
  change Option.bind (s.options.readFlags true [] cs) _ =
    Option.map _ (Option.bind (s.options.readFlags true [] cs) _)
  cases s.options.readFlags true [] cs with
  | none => rfl
  | some read =>
    simp only [Option.bind_some]
    split_ifs
    · rfl
    · rfl

theorem readOpened_within (cs : List Char) (groups : List OpenGroup) :
    (s.within groups).readOpened cs =
      (s.readOpened cs).map fun (s, rest) => (s.within groups, rest) := by
  unfold readOpened
  split
  · exact readNamedGroup_within ..
  · rfl
  · rfl
  · exact readNamedGroup_within ..
  · exact readFlagged_within ..
  · rfl

theorem closeGroup_within (inner : s.outer ≠ []) (groups : List OpenGroup) :
    (s.within groups).closeGroup = s.closeGroup.map fun s => s.within groups := by
  unfold closeGroup
  cases open_groups : s.outer with
  | nil => exact absurd open_groups inner
  | cons g outer => simp only [within, open_groups, List.cons_append, Option.map_some]

/-- A step sees nothing of the groups around, unless it closes one of them. -/
theorem step_within {c : Char} (inner : c = ')' → s.outer ≠ []) (cs : List Char)
    (groups : List OpenGroup) : (s.within groups).step c cs =
      (s.step c cs).map fun (s, rest) => (s.within groups, rest) := by
  unfold step
  split
  · exact readOpened_within ..
  · rw [closeGroup_within (inner rfl)]
    cases s.closeGroup <;> rfl
  · rfl
  · change Option.bind (Brackets.read s.options cs) _ =
      Option.map _ (Option.bind (Brackets.read s.options cs) _)
    cases Brackets.read s.options cs <;> rfl
  · exact readRepetition_within ..
  · exact readRepetition_within ..
  · exact readRepetition_within ..
  · exact readCounted_within ..
  · change Option.bind (Element.dot? s.options) _ = Option.map _ (Option.bind (Element.dot? s.options) _)
    cases Element.dot? s.options <;> rfl
  · rfl
  · rfl
  · change Option.bind (Element.readEscape s.options cs) _ =
      Option.map _ (Option.bind (Element.readEscape s.options cs) _)
    cases Element.readEscape s.options cs <;> rfl
  · rfl

/-! ### Runs -/

theorem run_congr {cs cs' : List Char} (same : s.options.skip cs = s.options.skip cs') (fuel : Nat) :
    run fuel s cs = run fuel s cs' := by
  cases fuel with
  | zero => rfl
  | succ fuel => rw [run, run, same]

theorem run_ended {cs : List Char} (ended : s.options.skip cs = []) (closed : s.outer = []) (fuel : Nat)
    (groups : List OpenGroup) :
    run (fuel + 1) (s.within groups) cs = if groups.isEmpty then some s else none := by
  have outer : (s.within groups).outer = groups := by
    rw [within, closed, List.nil_append]
  have alone (none_around : groups = []) : s.within groups = s := by
    rw [within, none_around, List.append_nil]
  rw [run, show (s.within groups).options.skip cs = [] from ended]
  simp only [outer]
  split_ifs with empty
  · rw [alone (List.isEmpty_iff.mp empty)]
  · rfl

theorem run_step {c : Char} {cs more rest : List Char} (skipped : s.options.skip cs = c :: more)
    (stepped : s.step c more = some (s', rest)) (fuel : Nat) : run (fuel + 1) s cs = run fuel s' rest := by
  simp only [run, skipped, stepped, Option.bind_eq_bind, Option.bind_some]

/-- A closing parenthesis closes no group where none is open. -/
theorem run_unopened (closed : s.outer = []) (fuel : Nat) (more : List Char) :
    run fuel s (')' :: more) = none := by
  cases fuel with
  | zero => rfl
  | succ fuel =>
    have stuck : s.closeGroup = none := by rw [closeGroup, closed]
    simp only [run, Options.skip_closing (.parenthesis more), step, stuck]
    rfl

theorem inner_of_step {c : Char} {cs rest : List Char} (found : s.step c cs = some (s', rest)) :
    c = ')' → s.outer ≠ [] := by
  rintro rfl closed
  have stuck : s.closeGroup = none := by rw [closeGroup, closed]
  simp only [step, stuck] at found
  cases found

theorem onward_append (s : PatternReader) (rest : List Char) {closing : List Char}
    (closes : Closing closing) : Onward s rest (rest ++ closing) where
  alike := by simpa using Alike.prepend rest (.closing .none closes)
  boundary plain := by rw [Element.boundaryNamed?_append (by rw [plain]; nofun) closes, plain]

/-- A run ends behind the last part, where no group may be open, and goes on from every other. -/
theorem run_cases {fuel : Nat} {cs : List Char} (found : run (fuel + 1) s cs = some s') :
    (s.options.skip cs = [] ∧ s.outer = [] ∧ s' = s) ∨
      ∃ c more again rest, s.options.skip cs = c :: more ∧ s.step c more = some (again, rest) ∧
        run fuel again rest = some s' := by
  rw [run] at found
  split at found
  · rename_i skipped
    split_ifs at found with closed
    cases found
    exact .inl ⟨skipped, List.isEmpty_iff.mp closed, rfl⟩
  · rename_i c more skipped
    obtain ⟨⟨again, rest⟩, stepped, later⟩ := Option.bind_eq_some_iff.mp found
    exact .inr ⟨c, more, again, rest, skipped, stepped, later⟩

theorem run_step_within {again : PatternReader} {blanks more rest : List Char} {c : Char}
    (skips : ∀ more', s.options.skip (blanks ++ c :: more') = c :: more')
    (stepped : s.step c more = some (again, rest)) (fuel extra : Nat) (groups : List OpenGroup) :
    run (fuel + 1 + extra) (s.within groups) (blanks ++ c :: more) =
      run (fuel + extra) (again.within groups) rest := by
  have around : (s.within groups).step c more = some (again.within groups, rest) := by
    rw [step_within (inner_of_step stepped), stepped, Option.map_some]
  rw [Nat.add_right_comm]
  exact run_step (s := s.within groups) (skips _) around _

/-- With a closing behind, the run comes to read that, within any groups around. -/
def ReadsOn (fuel : Nat) (s s' : PatternReader) (cs : List Char) : Prop :=
  ∀ closing, Closing closing → ∀ groups extra, ∃ left, extra < left ∧
    run (fuel + extra) (s.within groups) (cs ++ closing) = run left (s'.within groups) closing

/-- A closing behind on the same line is taken into a comment. -/
def Swallows (fuel : Nat) (s s' : PatternReader) (cs : List Char) : Prop :=
  ∀ closing, Closing closing → '\n' ∉ closing → ∀ groups extra,
    run (fuel + extra) (s.within groups) (cs ++ closing) = if groups.isEmpty then some s' else none

section

variable {again : PatternReader} {fuel : Nat} {blanks front rest : List Char} {c : Char}

theorem ReadsOn.step (h : ReadsOn fuel again s' rest)
    (skips : ∀ more, s.options.skip (blanks ++ c :: more) = c :: more)
    (stays : ∀ rest', Onward again rest rest' → s.step c (front ++ rest') = some (again, rest')) :
    ReadsOn (fuel + 1) s s' (blanks ++ c :: (front ++ rest)) := by
  intro closing closes groups extra
  rw [List.append_assoc, List.cons_append, List.append_assoc,
    run_step_within skips (stays _ (onward_append again rest closes))]
  exact h closing closes groups extra

theorem Swallows.step (h : Swallows fuel again s' rest)
    (skips : ∀ more, s.options.skip (blanks ++ c :: more) = c :: more)
    (stays : ∀ rest', Onward again rest rest' → s.step c (front ++ rest') = some (again, rest')) :
    Swallows (fuel + 1) s s' (blanks ++ c :: (front ++ rest)) := by
  intro closing closes sameLine groups extra
  rw [List.append_assoc, List.cons_append, List.append_assoc,
    run_step_within skips (stays _ (onward_append again rest closes))]
  exact h closing closes sameLine groups extra

/-- The comment stands at the end of the last step. -/
theorem Swallows.of_step (found : run fuel again [] = some s')
    (skips : ∀ more, s.options.skip (blanks ++ c :: more) = c :: more)
    (taken : ∀ line, '\n' ∉ line → s.step c (front ++ line) = some (again, [])) :
    Swallows (fuel + 1) s s' (blanks ++ c :: front) := by
  intro closing _ sameLine groups extra
  rw [List.append_assoc, List.cons_append, run_step_within skips (taken closing sameLine)]
  cases fuel with
  | zero => cases found
  | succ fuel =>
    rcases run_cases found with ⟨ended, closed, rfl⟩ | ⟨c, more, -, -, skipped, -⟩
    · rw [Nat.add_right_comm]
      exact run_ended ended closed ..
    · rw [Options.skip_nil] at skipped
      cases skipped

theorem readsOn_or_swallows_of_ended {cs : List Char} (ended : s.options.skip cs = []) (closed : s.outer = []) :
    ReadsOn (fuel + 1) s s cs ∨ Swallows (fuel + 1) s s cs := by
  rcases Options.skip_at_end ended with stays | taken
  · refine .inl fun closing _ groups extra => ⟨fuel + 1 + extra, by omega, ?_⟩
    exact run_congr (s := s.within groups) (stays closing) _
  · refine .inr fun closing _ sameLine groups extra => ?_
    rw [Nat.add_right_comm]
    exact run_ended ((taken closing).trans (Options.dropBlanks_comment sameLine)) closed ..

end

/-- A run reads the same within further groups and with a closing parenthesis behind: what is left then is
to read the closing, or nothing if a comment takes it in. -/
theorem run_within {fuel : Nat} {cs : List Char} (found : run fuel s cs = some s') :
    s'.outer = [] ∧ (ReadsOn fuel s s' cs ∨ Swallows fuel s s' cs) := by
  induction fuel generalizing s cs with
  | zero => cases found
  | succ fuel ih =>
    rcases run_cases found with
      ⟨ended, closed, rfl⟩ | ⟨c, more, again, rest, skipped, stepped, later⟩
    · exact ⟨closed, readsOn_or_swallows_of_ended ended closed⟩
    · obtain ⟨closed, onward⟩ := ih later
      obtain ⟨blanks, rfl, skips⟩ := Options.skip_of_found skipped
      obtain ⟨front, rfl, stays | ⟨rfl, taken⟩⟩ := step_upTo s c stepped
      · exact ⟨closed, onward.imp (·.step skips stays) (·.step skips stays)⟩
      · rw [List.append_nil]
        exact ⟨closed, .inr (.of_step later skips taken)⟩

theorem run_nil {fuel : Nat} (closed : s.outer = []) (some_fuel : 0 < fuel) : run fuel s [] = some s := by
  obtain ⟨fuel, rfl⟩ := Nat.exists_eq_add_of_lt some_fuel
  rw [Nat.zero_add, run, Options.skip_nil, closed]
  rfl

/-- A text that can be read does not end in an opening brace. -/
theorem boundaryNamed?_of_run {fuel : Nat} {cs : List Char} (found : run fuel s cs = some s') :
    Element.boundaryNamed? s.options cs ≠ none := by
  intro unseen
  obtain ⟨rest, rfl, missing⟩ := Element.boundaryNamed?_none unseen
  have brace : s.options.skip ('\x7b' :: rest) = '\x7b' :: rest := by
    unfold Options.skip
    split_ifs <;> rfl
  have unbraced : s.options.readBraced false rest = none := by
    rw [← Options.readBraced_skip, missing]
    rfl
  cases fuel with
  | zero => cases found
  | succ fuel =>
    simp only [run, brace, step, readCounted, unbraced] at found
    cases found

/-- Behind a text that can be read, a step sees no difference between two closings. -/
theorem onward_of_run {fuel : Nat} {cs closing closing' : List Char} (found : run fuel s cs = some s')
    (closes : Closing closing) (closes' : Closing closing') :
    Onward s (cs ++ closing) (cs ++ closing') where
  alike := Alike.prepend cs (.closing closes closes')
  boundary plain := by
    have seen := boundaryNamed?_of_run found
    rw [Element.boundaryNamed?_append seen closes] at plain
    rw [Element.boundaryNamed?_append seen closes', plain]

/-- Where a group around is closed, what has been read before reads alone. -/
theorem run_closed {fuel : Nat} {cs : List Char} {g : OpenGroup}
    (found : run fuel (s.within [g]) cs = some s') :
    ∃ front more e, cs = front ++ ')' :: more ∧ e.outer = [] ∧
      ∀ closing, Closing closing → ∀ fuel', front.length < fuel' →
        ∃ left, 0 < left ∧ run fuel' s (front ++ closing) = run left e closing := by
  induction fuel generalizing s cs with
  | zero => cases found
  | succ fuel ih =>
    rcases run_cases found with ⟨-, closed, -⟩ | ⟨c, more, t, rest, skipped, stepped, later⟩
    · simp [within] at closed
    · obtain ⟨blanks, rfl, skips⟩ := Options.skip_found skipped
      have stays (more' : List Char) : s.options.skip (blanks ++ c :: more') = c :: more' :=
        (skips _).trans (Options.skip_stays ((skips _).symm.trans skipped) more')
      -- the parenthesis that closes the group around is met where no group of the reader's own is open
      by_cases closes : c = ')' ∧ s.outer = []
      · obtain ⟨rfl, closed⟩ := closes
        refine ⟨blanks, more, s, rfl, closed, fun closing _ fuel' enough => ?_⟩
        exact ⟨fuel', by omega, run_congr (s := s) (skips closing) fuel'⟩
      · have inner : c = ')' → s.outer ≠ [] := fun mark closed => closes ⟨mark, closed⟩
        rw [step_within inner] at stepped
        obtain ⟨⟨again, rest⟩, stepped, same⟩ := Option.map_eq_some_iff.mp stepped
        cases same
        obtain ⟨front, more, e, rfl, closed, reads⟩ := ih later
        obtain ⟨taken, rfl, step | ⟨ended, -⟩⟩ := step_upTo s c stepped
        · refine ⟨blanks ++ c :: (taken ++ front), more, e, by simp, closed, ?_⟩
          intro closing closes fuel' enough
          obtain ⟨left, some_left, alone⟩ := reads [] .none _ (Nat.lt_succ_self _)
          rw [List.append_nil, run_nil closed some_left] at alone
          have onward := onward_of_run alone (.parenthesis more) closes
          simp only [List.append_assoc, List.cons_append, List.length_cons, List.length_append] at enough ⊢
          obtain ⟨fuel', rfl⟩ := Nat.exists_eq_add_one_of_ne_zero (by omega : fuel' ≠ 0)
          rw [run_step (stays _) (step _ onward)]
          exact reads closing closes fuel' (by omega)
        · simp at ended

end PatternReader

/-! ### Well-formed patterns -/

/-- All parts and branches read so far are well-formed. -/
structure Branches.WellFormed (b : Branches) : Prop where
  finished : ∀ r ∈ b.finished, r.WellFormed
  parts : ∀ r ∈ b.parts, r.WellFormed

namespace Branches

variable {b : Branches}

theorem wellFormed_empty : empty.WellFormed := ⟨nofun, nofun⟩

theorem WellFormed.push (formed : b.WellFormed) {r : Regex} (part : r.WellFormed) :
    (b.push r).WellFormed :=
  ⟨formed.finished, List.forall_mem_cons.mpr ⟨part, formed.parts⟩⟩

theorem WellFormed.lastBranch (formed : b.WellFormed) : b.lastBranch.WellFormed := by
  unfold Branches.lastBranch
  split
  · trivial
  · rename_i r same
    exact formed.parts r (same ▸ List.mem_cons_self)
  · exact Regex.allWellFormed_iff.mpr fun r member => formed.parts r (List.mem_reverse.mp member)

theorem WellFormed.next (formed : b.WellFormed) : b.next.WellFormed :=
  ⟨List.forall_mem_cons.mpr ⟨formed.lastBranch, formed.finished⟩, nofun⟩

theorem WellFormed.regex (formed : b.WellFormed) : b.regex.WellFormed := by
  unfold Branches.regex
  split
  · exact formed.lastBranch
  · refine ⟨by simp, Regex.allWellFormed_iff.mpr fun r member => ?_⟩
    rcases List.mem_cons.mp (List.mem_reverse.mp member) with rfl | earlier
    · exact formed.lastBranch
    · exact formed.finished r earlier

theorem WellFormed.repeatLast? {b' : Branches} {least : Nat} {most : Option Nat} {greedy : Bool}
    (formed : b.WellFormed) (ordered : ∀ m ∈ most, least ≤ m)
    (repeated : b.repeatLast? least most greedy = some b') : b'.WellFormed := by
  unfold Branches.repeatLast? at repeated
  split at repeated
  · cases repeated
  · cases repeated
  · rename_i r parts _ same
    cases repeated
    obtain ⟨part, others⟩ := List.forall_mem_cons.mp (same ▸ formed.parts)
    exact ⟨formed.finished, List.forall_mem_cons.mpr ⟨⟨ordered, part⟩, others⟩⟩

end Branches

namespace PatternReader

/-- What has been read is well-formed, in the group that is read and in the groups around it. -/
structure WellFormed (s : PatternReader) : Prop where
  branches : s.branches.WellFormed
  outer : ∀ g ∈ s.outer, g.before.WellFormed

variable {s s' : PatternReader} {cs rest : List Char}

theorem wellFormed_start : start.WellFormed := ⟨Branches.wellFormed_empty, nofun⟩

theorem WellFormed.push (formed : s.WellFormed) {r : Regex} (part : r.WellFormed) : (s.push r).WellFormed :=
  ⟨formed.branches.push part, formed.outer⟩

theorem WellFormed.openGroup (formed : s.WellFormed) (number : Option Nat) (options : Options) :
    (s.openGroup number options).WellFormed :=
  ⟨Branches.wellFormed_empty, List.forall_mem_cons.mpr ⟨formed.branches, formed.outer⟩⟩

theorem WellFormed.openCapture (formed : s.WellFormed) : s.openCapture.WellFormed :=
  have opened := formed.openGroup (some (s.groups + 1)) s.options
  ⟨opened.branches, opened.outer⟩

theorem WellFormed.closeGroup (formed : s.WellFormed) (closed : s.closeGroup = some s') :
    s'.WellFormed := by
  unfold PatternReader.closeGroup at closed
  split at closed
  · cases closed
  · rename_i g outer same
    cases closed
    obtain ⟨before, others⟩ := List.forall_mem_cons.mp (same ▸ formed.outer)
    exact ⟨before.push formed.branches.regex, others⟩

theorem WellFormed.readRepetition (formed : s.WellFormed) {least : Nat} {most : Option Nat}
    (ordered : ∀ m ∈ most, least ≤ m) (found : s.readRepetition least most cs = some (s', rest)) :
    s'.WellFormed := by
  obtain ⟨again, repeated, found⟩ := Option.bind_eq_some_iff.mp found
  obtain ⟨branches, last, repeated⟩ := Option.bind_eq_some_iff.mp repeated
  cases found
  cases repeated
  exact ⟨formed.branches.repeatLast? ordered last, formed.outer⟩

theorem bounds?_ordered {inside : List Char} {least : Nat} {most : Option Nat}
    (bounds : bounds? inside = some (least, most)) : ∀ m ∈ most, least ≤ m := by
  obtain ⟨low, -, bounds⟩ := Option.bind_eq_some_iff.mp bounds
  split at bounds
  · cases bounds
    exact fun m same => Nat.le_of_eq (Option.some.inj same)
  · cases bounds
    exact nofun
  · obtain ⟨high, -, bounds⟩ := Option.bind_eq_some_iff.mp bounds
    split_ifs at bounds with ordered
    cases bounds
    exact fun m same => Option.some.inj same ▸ ordered

theorem WellFormed.readNamedGroup (formed : s.WellFormed) (found : s.readNamedGroup cs = some (s', rest)) :
    s'.WellFormed := by
  unfold PatternReader.readNamedGroup at found
  simp only at found
  split at found
  · split_ifs at found
    cases found
    exact ⟨formed.openCapture.branches, formed.openCapture.outer⟩
  · cases found

theorem WellFormed.readFlagged (formed : s.WellFormed) (found : s.readFlagged cs = some (s', rest)) :
    s'.WellFormed := by
  obtain ⟨⟨options, mark, after⟩, -, found⟩ := Option.bind_eq_some_iff.mp found
  simp only at found
  split_ifs at found
  · cases found
    exact WellFormed.push (s := { s with options }) ⟨formed.branches, formed.outer⟩ trivial
  · cases found
    exact formed.openGroup ..

theorem WellFormed.readGroup (formed : s.WellFormed) (found : s.readGroup cs = some (s', rest)) :
    s'.WellFormed := by
  rw [readGroup_eq] at found
  unfold readOpened at found
  split at found
  · exact formed.readNamedGroup found
  · cases found
  · cases found
  · exact formed.readNamedGroup found
  · exact formed.readFlagged found
  · cases found
    exact formed.openCapture

theorem WellFormed.step (formed : s.WellFormed) {c : Char} (found : s.step c cs = some (s', rest)) :
    s'.WellFormed := by
  unfold PatternReader.step at found
  split at found
  · exact formed.readGroup found
  · obtain ⟨_, closed, found⟩ := Option.bind_eq_some_iff.mp found
    cases found
    exact formed.closeGroup closed
  · cases found
    exact ⟨formed.branches.next, formed.outer⟩
  · obtain ⟨_, _, found⟩ := Option.bind_eq_some_iff.mp found
    cases found
    exact formed.push trivial
  · exact formed.readRepetition (fun m _ => Nat.zero_le m) found
  · refine formed.readRepetition ?_ found
    exact nofun
  · refine formed.readRepetition ?_ found
    exact nofun
  · obtain ⟨_, _, found⟩ := Option.bind_eq_some_iff.mp found
    obtain ⟨_, bounds, found⟩ := Option.bind_eq_some_iff.mp found
    exact formed.readRepetition (bounds?_ordered bounds) found
  · obtain ⟨_, _, found⟩ := Option.bind_eq_some_iff.mp found
    cases found
    exact formed.push trivial
  · cases found
    exact formed.push trivial
  · cases found
    exact formed.push trivial
  · obtain ⟨⟨e, _⟩, _, found⟩ := Option.bind_eq_some_iff.mp found
    cases found
    cases e <;> exact formed.push trivial
  · cases found
    exact formed.push trivial

theorem run_wellFormed {fuel : Nat} (formed : s.WellFormed) (found : run fuel s cs = some s') :
    s'.WellFormed := by
  induction fuel generalizing s cs with
  | zero => cases found
  | succ fuel ih =>
    rw [run] at found
    split at found
    · split_ifs at found
      cases found
      exact formed
    · obtain ⟨⟨again, rest⟩, stepped, found⟩ := Option.bind_eq_some_iff.mp found
      exact ih (formed.step stepped) found

end PatternReader

end DatasetScript
