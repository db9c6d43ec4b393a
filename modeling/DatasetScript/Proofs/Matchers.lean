import DatasetScript.Pattern.Matcher
import DatasetScript.Proofs.PatternReading
import DatasetScript.Proofs.PatternSearch
/-!
# Matchers

A matcher matches where the expression that is read from its text spans something, and between the
ends of a text it matches where the expression by itself spans the whole of it. Setting a pattern
between the ends, as text, makes a valid pattern invalid if it ends in a comment or nearly reaches the
greatest size, and an invalid one valid only if a closing parenthesis in it closes no group. Main
statements: `matchesBy_spans`, `isSome_expression?_wholeText_iff` and `strayParenthesis_of_wholeText`.
-/

namespace DatasetScript

namespace Matcher

open Pattern (wholeText)

/-! ### Expressions of patterns -/

/-- The expression that a text reads as, of whatever size. -/
def reading? (text : String) : Option Regex :=
  (PatternReader.run (text.toList.length + 1) .start text.toList).map fun s => s.branches.regex

/-- The expression of a valid pattern. -/
def expression? (text : String) : Option Regex :=
  (reading? text).filter fun r => r.depth ≤ greatestDepth ∧ r.weight ≤ greatestWeight

theorem expression?_eq_some_iff {text : String} {r : Regex} : expression? text = some r ↔
    reading? text = some r ∧ r.depth ≤ greatestDepth ∧ r.weight ≤ greatestWeight := by
  rw [expression?, Option.filter_eq_some_iff, decide_eq_true_eq]

/-- A text without an expression makes no matcher, and that of a text with one matches where the
expression spans something. -/
theorem ofText?_cases (text : String) : (ofText? text = none ∧ expression? text = none) ∨
    ∃ m r, ofText? text = some m ∧ expression? text = some r ∧ ∀ s : String,
      m.isMatch s = true ↔ ∃ i ≤ s.length, ∃ j, r.Spans s.toList.toArray i j := by
  unfold ofText?
  dsimp only
  cases found : PatternReader.run (text.toList.length + 1) .start text.toList with
  | none =>
    refine .inl ⟨rfl, ?_⟩
    rw [expression?, reading?, found]
    rfl
  | some e =>
    have reads : reading? text = some e.branches.regex := by
      rw [reading?, found]
      rfl
    rw [Option.bind_eq_bind, Option.bind_some]
    split_ifs with fits
    · refine .inr ⟨_, _, rfl, expression?_eq_some_iff.mpr ⟨reads, fits⟩, fun s => ?_⟩
      have formed := PatternReader.run_wellFormed PatternReader.wellFormed_start found
      rw [isMatch, Regex.find?_isSome_iff formed.branches.regex, List.size_toArray,
        String.length_toList]
    · refine .inl ⟨rfl, Option.eq_none_iff_forall_ne_some.mpr fun r valid => ?_⟩
      obtain ⟨same, valid⟩ := expression?_eq_some_iff.mp valid
      cases same.symm.trans reads
      exact fits valid

theorem compile?_eq_some_iff {text : String} {p : Pattern} : PatternLanguage.compile? text = some p ↔
    ∃ m, ofText? text = some m ∧ ⟨m.isMatch, m.replaceAll⟩ = p := Option.map_eq_some_iff

theorem isSome_compile?_iff (text : String) :
    (PatternLanguage.compile? text).isSome ↔ (expression? text).isSome := by
  have made : (PatternLanguage.compile? text).isSome = (ofText? text).isSome := Option.isSome_map
  rw [made]
  obtain ⟨unmade, invalid⟩ | ⟨m, r, made, valid, -⟩ := ofText?_cases text
  · simp [unmade, invalid]
  · simp [made, valid]

/-! ### Patterns between the ends of a text -/

/-- A pattern within a group between the ends of the text. -/
def enclosed (r : Regex) : Regex := .concat [.assertion .textStart, .group none r, .assertion .textEnd]

/-- A comment is still open at the end of a pattern, and takes in a closing parenthesis. -/
def LeavesComment (pattern : String) : Prop := (reading? (pattern ++ ")")).isSome

theorem spans_textStart_iff {text : Array Char} {i j : Nat} (inside : i ≤ text.size) :
    (Regex.assertion .textStart).Spans text i j ↔ i = 0 ∧ j = 0 := by
  change (Regex.charBefore text i).isNone = true ∧ i = j ↔ _
  rw [Option.isNone_iff_eq_none, Regex.charBefore]
  split_ifs with first
  · exact ⟨fun h => ⟨first, h.2 ▸ first⟩, fun h => ⟨rfl, h.1.trans h.2.symm⟩⟩
  · rw [Array.getElem?_eq_none_iff]
    omega

theorem spans_textEnd_iff {text : Array Char} {i j : Nat} (inside : i ≤ text.size) :
    (Regex.assertion .textEnd).Spans text i j ↔ i = text.size ∧ j = text.size := by
  change text[i]?.isNone = true ∧ i = j ↔ _
  rw [Option.isNone_iff_eq_none, Array.getElem?_eq_none_iff]
  omega

/-- The group that a pattern is set within. -/
def enclosingGroup : OpenGroup := ⟨none, ⟨[], [.assertion .textStart]⟩, .standard⟩

theorem run_opening (fuel : Nat) (cs : List Char) :
    PatternReader.run (fuel + 2) .start ('^' :: '(' :: '?' :: ':' :: cs) =
      PatternReader.run fuel (PatternReader.start.within [enclosingGroup]) cs := rfl

theorem run_closing {e : PatternReader} (closed : e.outer = []) (fuel : Nat) :
    (PatternReader.run (fuel + 3) (e.within [enclosingGroup]) [')', '$']).map (·.branches.regex) =
      some (enclosed e.branches.regex) := by
  have closes : (e.within [enclosingGroup]).step ')' ['$'] =
      some (⟨.standard, ⟨[], [.group none e.branches.regex, .assertion .textStart]⟩, [], e.groups,
        e.names⟩, ['$']) := by
    change Option.bind (e.within [enclosingGroup]).closeGroup _ = _
    rw [PatternReader.closeGroup, PatternReader.within, closed]
    rfl
  rw [PatternReader.run_step (Options.skip_closing (.parenthesis _)) closes]
  rfl

/-- A pattern between the ends is read as the pattern itself with the enclosing group around it. -/
theorem reading?_wholeText_eq (pattern : String) : reading? (wholeText pattern) =
    (PatternReader.run (pattern.toList.length + 1 + 4) (PatternReader.start.within [enclosingGroup])
      (pattern.toList ++ [')', '$'])).map (·.branches.regex) := by
  have around : (wholeText pattern).toList =
      '^' :: '(' :: '?' :: ':' :: (pattern.toList ++ [')', '$']) := by
    simp [wholeText]
  rw [reading?, around, show ('^' :: '(' :: '?' :: ':' :: (pattern.toList ++ [')', '$'])).length + 1 =
    pattern.toList.length + 1 + 4 + 2 by simp, run_opening]

theorem leavesComment_iff (pattern : String) : LeavesComment pattern ↔
    (PatternReader.run (pattern.toList.length + 1 + 1) (PatternReader.start.within [])
      (pattern.toList ++ [')'])).isSome := by
  have behind : (pattern ++ ")").toList = pattern.toList ++ [')'] := by
    rw [String.toList_append]
    rfl
  rw [LeavesComment, reading?, behind, Option.isSome_map, List.length_append]
  rfl

section

variable {pattern : String} {e : PatternReader}

theorem reads_on (found : PatternReader.run (pattern.toList.length + 1) .start pattern.toList = some e)
    (uncommented : ¬LeavesComment pattern) {closing : List Char} (closes : Closing closing)
    (groups : List OpenGroup) (extra : Nat) : ∃ left, extra < left ∧
      PatternReader.run (pattern.toList.length + 1 + extra) (PatternReader.start.within groups)
        (pattern.toList ++ closing) = PatternReader.run left (e.within groups) closing := by
  obtain ⟨-, reads | swallowed⟩ := PatternReader.run_within found
  · exact reads closing closes groups extra
  · refine absurd ((leavesComment_iff pattern).mpr ?_) uncommented
    rw [swallowed _ (.parenthesis []) (by decide)]
    rfl

theorem swallows (found : PatternReader.run (pattern.toList.length + 1) .start pattern.toList = some e)
    (comment : LeavesComment pattern) {closing : List Char} (closes : Closing closing)
    (sameLine : '\n' ∉ closing) (groups : List OpenGroup) (extra : Nat) :
    PatternReader.run (pattern.toList.length + 1 + extra) (PatternReader.start.within groups)
      (pattern.toList ++ closing) = if groups.isEmpty then some e else none := by
  obtain ⟨closed, reads | swallowed⟩ := PatternReader.run_within found
  · obtain ⟨left, -, same⟩ := reads [')'] (.parenthesis []) [] 1
    rw [leavesComment_iff, same, PatternReader.run_unopened] at comment
    · cases comment
    · rw [PatternReader.within, closed, List.append_nil]
  · exact swallowed closing closes sameLine groups extra

end

theorem reading?_wholeText {pattern : String} {r : Regex} (reads : reading? pattern = some r) :
    (¬LeavesComment pattern → reading? (wholeText pattern) = some (enclosed r)) ∧
      (LeavesComment pattern → reading? (wholeText pattern) = none) := by
  obtain ⟨e, found, rfl⟩ := Option.map_eq_some_iff.mp reads
  rw [reading?_wholeText_eq]
  constructor
  · intro uncommented
    obtain ⟨left, enough, same⟩ := reads_on found uncommented (.parenthesis ['$']) [enclosingGroup] 4
    obtain ⟨fuel, rfl⟩ := Nat.exists_eq_add_of_le' (by omega : 3 ≤ left)
    rw [same, run_closing (PatternReader.run_within found).1]
  · intro comment
    rw [swallows found comment (.parenthesis ['$']) (by decide)]
    rfl

/-! ### Stray parentheses -/

/-- What stands in front of a closing parenthesis reads alone, so that the parenthesis closes no
group. -/
def StrayParenthesis (pattern : String) : Prop :=
  ∃ before after, pattern = before ++ ")" ++ after ∧ (reading? before).isSome ∧ ¬LeavesComment before

theorem StrayParenthesis.reading? {pattern : String} (stray : StrayParenthesis pattern) :
    Matcher.reading? pattern = none := by
  obtain ⟨before, after, rfl, reads, uncommented⟩ := stray
  obtain ⟨e, found⟩ := Option.isSome_iff_exists.mp (Option.isSome_map.symm.trans reads)
  have closed : (e.within []).outer = [] := by
    rw [PatternReader.within, (PatternReader.run_within found).1, List.append_nil]
  obtain ⟨left, -, same⟩ :=
    reads_on found uncommented (.parenthesis after.toList) [] (after.toList.length + 1)
  rw [PatternReader.run_unopened closed] at same
  have characters : (before ++ ")" ++ after).toList = before.toList ++ ')' :: after.toList := by simp
  have length : (before.toList ++ ')' :: after.toList).length + 1 =
      before.toList.length + 1 + (after.toList.length + 1) := by
    rw [List.length_append, List.length_cons]
    omega
  rw [Matcher.reading?, characters, length]
  exact congrArg _ same

/-- Between the ends nothing else is read than what reads alone, unless a parenthesis closes the group
around it. -/
theorem reading?_of_wholeText {pattern : String} {w : Regex}
    (whole : reading? (wholeText pattern) = some w) :
    (reading? pattern).isSome ∨ StrayParenthesis pattern := by
  rw [reading?_wholeText_eq] at whole
  obtain ⟨t, found, -⟩ := Option.map_eq_some_iff.mp whole
  obtain ⟨front, more, e, same, closed, reads⟩ := PatternReader.run_closed found
  have alone : (reading? (String.ofList front)).isSome := by
    obtain ⟨left, some_left, same⟩ := reads [] .none _ (Nat.lt_succ_self _)
    rw [List.append_nil, PatternReader.run_nil closed some_left] at same
    rw [reading?, String.toList_ofList, same]
    rfl
  have uncommented : ¬LeavesComment (String.ofList front) := by
    obtain ⟨left, -, same⟩ := reads [')'] (.parenthesis []) (front.length + 1 + 1) (by omega)
    rw [PatternReader.run_unopened closed] at same
    rw [leavesComment_iff, String.toList_ofList]
    exact Option.not_isSome_iff_eq_none.mpr same
  -- the parenthesis is the one behind the pattern or stands in it
  rcases List.append_eq_append_iff.mp same with ⟨others, rfl, ends⟩ | ⟨others, characters, ends⟩
  · have nothing : others = [] := by
      rcases others with _ | ⟨c, _ | ⟨d, others⟩⟩ <;> simp at ends ⊢
    rw [nothing, List.append_nil, String.ofList_toList] at alone
    exact .inl alone
  · cases others with
    | nil =>
      rw [List.append_nil] at characters
      rw [← characters, String.ofList_toList] at alone
      exact .inl alone
    | cons c after =>
      obtain ⟨rfl, -⟩ := List.cons.inj ends
      refine .inr ⟨String.ofList front, String.ofList after, ?_, alone, uncommented⟩
      rw [← String.toList_inj, characters]
      simp

/-! ### Validity between the ends -/

theorem enclosed_depth (r : Regex) : (enclosed r).depth = r.depth + 2 := by
  simp [enclosed, Regex.depth, Regex.depthOfAll]

theorem enclosed_weight (r : Regex) : (enclosed r).weight = r.weight + 128 := by
  simp only [enclosed, Regex.weight, Regex.weightOfAll]
  omega

/-- A valid pattern is valid between the ends unless it ends in a comment or is too large for the
group. -/
theorem expression?_wholeText_iff {pattern : String} {r w : Regex}
    (valid : expression? pattern = some r) : expression? (wholeText pattern) = some w ↔
      w = enclosed r ∧ ¬LeavesComment pattern ∧ r.depth + 2 ≤ greatestDepth ∧
        r.weight + 128 ≤ greatestWeight := by
  obtain ⟨opened, commented⟩ := reading?_wholeText (expression?_eq_some_iff.mp valid).1
  rw [expression?_eq_some_iff]
  by_cases comment : LeavesComment pattern
  · rw [commented comment]
    exact iff_of_false (fun h => nomatch h.1) fun h => h.2.1 comment
  · rw [opened comment, Option.some.injEq, ← enclosed_depth, ← enclosed_weight, eq_comm]
    constructor
    · rintro ⟨rfl, fits⟩
      exact ⟨rfl, comment, fits⟩
    · rintro ⟨rfl, -, fits⟩
      exact ⟨rfl, fits⟩

theorem isSome_expression?_wholeText_iff {pattern : String} {r : Regex}
    (valid : expression? pattern = some r) : (expression? (wholeText pattern)).isSome ↔
      ¬LeavesComment pattern ∧ r.depth + 2 ≤ greatestDepth ∧ r.weight + 128 ≤ greatestWeight := by
  rw [Option.isSome_iff_exists]
  constructor
  · rintro ⟨w, whole⟩
    exact ((expression?_wholeText_iff valid).mp whole).2
  · intro fits
    exact ⟨enclosed r, (expression?_wholeText_iff valid).mpr ⟨rfl, fits⟩⟩

example : (expression? "(?x)a #c").isSome ∧ expression? (wholeText "(?x)a #c") = none := by decide

/-- An invalid pattern is valid between the ends only where a parenthesis in it closes the group
around. -/
theorem strayParenthesis_of_wholeText {pattern : String} {w : Regex}
    (invalid : expression? pattern = none) (whole : expression? (wholeText pattern) = some w) :
    StrayParenthesis pattern := by
  rcases reading?_of_wholeText (expression?_eq_some_iff.mp whole).1 with reads | stray
  · obtain ⟨r, reads⟩ := Option.isSome_iff_exists.mp reads
    obtain ⟨opened, commented⟩ := reading?_wholeText reads
    obtain ⟨read, depth, weight⟩ := expression?_eq_some_iff.mp whole
    by_cases comment : LeavesComment pattern
    · rw [commented comment] at read
      cases read
    · rw [opened comment] at read
      cases read
      rw [enclosed_depth] at depth
      rw [enclosed_weight] at weight
      have valid := expression?_eq_some_iff.mpr ⟨reads, by omega, by omega⟩
      rw [invalid] at valid
      cases valid
  · exact stray

theorem StrayParenthesis.expression? {pattern : String} (stray : StrayParenthesis pattern) :
    Matcher.expression? pattern = none := by
  rw [Matcher.expression?, stray.reading?, Option.filter_none]

/-! ### What expressions span -/

/-- The expression of a valid pattern spans what is between two places of a text. -/
def spans (pattern s : String) (i j : Nat) : Prop :=
  i ≤ s.length ∧ ∃ r, expression? pattern = some r ∧ r.Spans s.toList.toArray i j

theorem spans_iff {pattern s : String} {r : Regex} (valid : expression? pattern = some r) {i j : Nat} :
    spans pattern s i j ↔ i ≤ s.toList.toArray.size ∧ r.Spans s.toList.toArray i j := by
  rw [List.size_toArray, String.length_toList, spans, valid]
  simp

theorem spans_caret_iff {s : String} {i j : Nat} : spans "^" s i j ↔ i = 0 ∧ j = 0 := by
  have valid : expression? "^" = some (.assertion .textStart) := rfl
  rw [spans_iff valid, and_congr_right fun inside => spans_textStart_iff inside]
  exact and_iff_right_of_imp fun h => h.1 ▸ Nat.zero_le _

theorem spans_dollar_iff {s : String} {i j : Nat} : spans "$" s i j ↔ i = s.length ∧ j = s.length := by
  have valid : expression? "$" = some (.assertion .textEnd) := rfl
  rw [spans_iff valid, and_congr_right fun inside => spans_textEnd_iff inside, List.size_toArray,
    String.length_toList]
  exact and_iff_right_of_imp fun h => h.1.le

theorem matchesBy_spans : PatternLanguage.MatchesBy spans where
  isMatch_iff {t p} valid s := by
    obtain ⟨m, made, rfl⟩ := compile?_eq_some_iff.mp valid
    obtain ⟨unmade, -⟩ | ⟨m', r, made', found, matching⟩ := ofText?_cases t
    · cases unmade.symm.trans made
    · cases made'.symm.trans made
      simp [matching, spans, found]
  start_iff := spans_caret_iff
  end_iff := spans_dollar_iff
  group_iff {t} valid whole s i l := by
    obtain ⟨r, alone⟩ := Option.isSome_iff_exists.mp ((isSome_compile?_iff t).mp valid)
    obtain ⟨w, around⟩ := Option.isSome_iff_exists.mp ((isSome_compile?_iff (wholeText t)).mp whole)
    obtain ⟨rfl, -⟩ := (expression?_wholeText_iff alone).mp around
    rw [spans_iff around]
    constructor
    · rintro ⟨inside, j, starts, k, between, m, ends, rfl⟩
      have first := (Regex.Spans.within starts inside).2
      have last := (Regex.Spans.within between first).2
      exact ⟨j, k, (spans_iff rfl).mpr ⟨inside, starts⟩, (spans_iff alone).mpr ⟨first, between⟩,
        (spans_iff rfl).mpr ⟨last, ends⟩⟩
    · rintro ⟨j, k, starts, between, ends⟩
      obtain ⟨inside, starts⟩ := (spans_iff rfl).mp starts
      exact ⟨inside, j, starts, k, ((spans_iff alone).mp between).2, l,
        ((spans_iff rfl).mp ends).2, rfl⟩

end Matcher

end DatasetScript
