import DatasetScript.Proofs.Agreement
import DatasetScript.Proofs.Matchers
/-!
# Matching whole texts

A pattern is matched against a whole text by setting it, as text, within a group between the two
ends. The answer is what the pattern by itself calls for, whether its expression spans the whole text,
just where the pattern and the text around it are both valid or both not. A stray parenthesis closes
the group, so that the text around a pattern may be valid where the pattern is not. Main statement:
`Checking.match_characters_whole`, for any library of regular expressions that matches as it says.
-/

namespace DatasetScript

/-! ### Calls -/

/-- The node is a text expression that resolves to a text. -/
def Node.HasText [PatternLanguage] (scope : Scope) (env : Env) (x : Node) (text : String) : Prop :=
  ∃ e, x.check scope = .ok e ∧ e.type? = some (.scalar .string) ∧ e.resolve env = .ok (.string text)

def Node.matchCharacters (x y : Node) (position : Option Position) : Node :=
  ⟨.call .comparison "match_characters" [x, y], position⟩

namespace Checking

open Pattern (wholeText)

section

variable [PatternLanguage] {scope : Scope} {env : Env} {x y : Node} {s p : String}

theorem formula_of_hasText (h : x.HasText scope env s) :
    ∃ f : Formula .string, x.check scope = .ok (.scalar .string f) ∧ f env = .ok (some s) := by
  obtain ⟨e, checked, typed, resolved⟩ := h
  cases e with
  | null => cases typed
  | query q => cases typed
  | scalar t f =>
    cases typed
    refine ⟨f, checked, ?_⟩
    obtain ⟨v, made, same⟩ := bind_ok resolved
    cases v with
    | none => cases pure_ok same
    | some v =>
      cases pure_ok same
      exact made

/-- Reading the pattern and matching, without regard to nodes. -/
def matchTexts (s p : String) : Except Error Bool :=
  (readPattern wholeText p).map fun pattern => pattern.isMatch s

theorem patternOf_eq {f : Formula .string} (checked : y.check scope = .ok (.scalar .string f))
    (made : f env = .ok (some p)) (extend : String → String) :
    patternOf extend y f env = (readPattern extend p).map some := by
  unfold patternOf
  cases literal : y.textLiteral? with
  | none =>
    simp only [compilePattern, made]
    rfl
  | some text =>
    have faithful := check_faithful scope y text literal
    cases checked.symm.trans faithful
    cases made
    rfl

theorem matchCall_resolves {a b : Operand} {f g : Formula .string} (first : a.expr = .ok (.scalar .string f))
    (second : b.expr = .ok (.scalar .string g)) {read : Except Error Pattern} (text : f env = .ok (some s))
    (pattern : patternOf wholeText b.node g env = read.map some) :
    ∃ resolved : Formula .boolean, matchCall [a, b] = .ok (.scalar .boolean resolved) ∧
      resolved env = read.map fun p => some (p.isMatch s) := by
  obtain ⟨node, expr⟩ := a
  obtain ⟨node', expr'⟩ := b
  cases first
  cases second
  refine ⟨_, rfl, ?_⟩
  change (f env >>= fun s => patternOf wholeText node' g env >>= _) = _
  rw [text, pattern]
  cases read <;> rfl

theorem matchCharacters_resolves (first : x.HasText scope env s) (second : y.HasText scope env p)
    (position : Option Position) : ∃ e, (x.matchCharacters y position).check scope = .ok e ∧
      e.type? = some (.scalar .boolean) ∧
      e.resolve env = locate position ((matchTexts s p).map Value.boolean) := by
  obtain ⟨f, checked, made⟩ := formula_of_hasText first
  obtain ⟨g, checked', made'⟩ := formula_of_hasText second
  obtain ⟨resolved, called, result⟩ := matchCall_resolves (a := ⟨x, x.check scope⟩)
    (b := ⟨y, y.check scope⟩) checked checked' made (patternOf_eq checked' made' wholeText)
  refine ⟨(Expr.scalar .boolean resolved).locate position, ?_, rfl, ?_⟩
  · have form : Form.check scope (.call .comparison "match_characters" [x, y]) =
        matchCall [⟨x, x.check scope⟩, ⟨y, y.check scope⟩] := rfl
    rw [Node.matchCharacters, check_eq_placed, form, called]
    rfl
  · change (locate position (resolved env) >>= _) = _
    rw [result, matchTexts]
    cases readPattern wholeText p <;> rfl

/-! ### Main statement -/

/-- What a pattern by itself calls for, where `spans` is what expressions match: an invalid one is
refused, and for a valid one the answer is whether its expression spans the whole text. -/
def CalledFor (spans : String → String → Nat → Nat → Prop) (s p : String)
    (outcome : Except Error Value) : Prop :=
  match PatternLanguage.compile? p with
  | none => ∃ e, outcome = .error e ∧ e.cause = .resolutionFailure (.invalidPattern p)
  | some _ => ∃ b, outcome = .ok (.boolean b) ∧ (b = true ↔ spans p s 0 s.length)

theorem matchTexts_invalid (invalid : PatternLanguage.compile? (wholeText p) = none) :
    matchTexts s p = .error (.resolutionFailure (.invalidPattern p)) := by
  rw [matchTexts, readPattern, invalid]
  rfl

theorem matchTexts_valid {w : Pattern} (valid : PatternLanguage.compile? (wholeText p) = some w) :
    matchTexts s p = .ok (w.isMatch s) := by
  rw [matchTexts, readPattern, valid]
  rfl

section

variable {spans : String → String → Nat → Nat → Prop} (documented : PatternLanguage.MatchesBy spans)

include documented

/-- Between the ends a valid pattern matches in a text if it spans the whole of it. -/
theorem isMatch_wholeText_iff {w : Pattern} (valid : (PatternLanguage.compile? p).isSome)
    (whole : PatternLanguage.compile? (wholeText p) = some w) :
    w.isMatch s = true ↔ spans p s 0 s.length := by
  have enclosed {i l : Nat} := documented.group_iff valid (Option.isSome_of_eq_some whole) (s := s)
    (i := i) (l := l)
  rw [documented.isMatch_iff whole]
  constructor
  · rintro ⟨i, l, spanned⟩
    obtain ⟨j, k, starts, between, ends⟩ := enclosed.mp spanned
    obtain ⟨-, rfl⟩ := documented.start_iff.mp starts
    obtain ⟨rfl, -⟩ := documented.end_iff.mp ends
    exact between
  · intro between
    exact ⟨0, s.length, enclosed.mpr
      ⟨0, s.length, documented.start_iff.mpr ⟨rfl, rfl⟩, between, documented.end_iff.mpr ⟨rfl, rfl⟩⟩⟩

/-- An outcome that the pattern between the ends calls for is the one that the pattern by itself calls for
just if both are valid or neither is. -/
theorem calledFor_iff {outcome : Except Error Value}
    (refused : PatternLanguage.compile? (wholeText p) = none →
      ∃ e, outcome = .error e ∧ e.cause = .resolutionFailure (.invalidPattern p))
    (answered : ∀ w, PatternLanguage.compile? (wholeText p) = some w →
      outcome = .ok (.boolean (w.isMatch s))) :
    CalledFor spans s p outcome ↔
      ((PatternLanguage.compile? p).isSome ↔ (PatternLanguage.compile? (wholeText p)).isSome) := by
  unfold CalledFor
  cases whole : PatternLanguage.compile? (wholeText p) with
  | none =>
    obtain ⟨e, failed, cause⟩ := refused whole
    cases alone : PatternLanguage.compile? p with
    | none => exact iff_of_true ⟨e, failed, cause⟩ Iff.rfl
    | some v =>
      refine iff_of_false ?_ (by simp)
      rintro ⟨b, made, -⟩
      cases failed.symm.trans made
  | some w =>
    have made := answered w whole
    cases alone : PatternLanguage.compile? p with
    | none =>
      refine iff_of_false ?_ (by simp)
      rintro ⟨e, failed, -⟩
      cases failed.symm.trans made
    | some v =>
      have valid := Option.isSome_of_eq_some alone
      exact iff_of_true ⟨w.isMatch s, made, isMatch_wholeText_iff documented valid whole⟩ Iff.rfl

end

/-- Matching refuses a pattern that is not valid between the ends of a text, and else says whether
what is read there matches anywhere. This is what the pattern by itself calls for, refusal if it is not
valid and else whether it spans the whole text, just if it is valid by itself and between the ends
alike. -/
theorem match_characters_whole {spans : String → String → Nat → Nat → Prop}
    (documented : PatternLanguage.MatchesBy spans) (first : x.HasText scope env s)
    (second : y.HasText scope env p) (position : Option Position) :
    ∃ e, (x.matchCharacters y position).check scope = .ok e ∧ e.type? = some (.scalar .boolean) ∧
      (PatternLanguage.compile? (wholeText p) = none →
        e.resolve env = .error ⟨.resolutionFailure (.invalidPattern p), position⟩) ∧
      (∀ w, PatternLanguage.compile? (wholeText p) = some w → ∃ b,
        e.resolve env = .ok (.boolean b) ∧ (b = true ↔ ∃ i j, spans (wholeText p) s i j)) ∧
      (CalledFor spans s p (e.resolve env) ↔ ((PatternLanguage.compile? p).isSome ↔
        (PatternLanguage.compile? (wholeText p)).isSome)) := by
  obtain ⟨e, checked, typed, resolved⟩ := matchCharacters_resolves first second position
  have refused (invalid : PatternLanguage.compile? (wholeText p) = none) :
      e.resolve env = .error ⟨.resolutionFailure (.invalidPattern p), position⟩ := by
    rw [resolved, matchTexts_invalid invalid]
    cases position <;> rfl
  have answered (w : Pattern) (valid : PatternLanguage.compile? (wholeText p) = some w) :
      e.resolve env = .ok (.boolean (w.isMatch s)) := by
    rw [resolved, matchTexts_valid valid]
    rfl
  refine ⟨e, checked, typed, refused, fun w valid => ?_,
    calledFor_iff documented (fun invalid => ⟨_, refused invalid, rfl⟩) answered⟩
  exact ⟨w.isMatch s, answered w valid, documented.isMatch_iff valid s⟩

end

def textNode (text : String) : Node := ⟨.literal (.string text), none⟩

theorem textNode_hasText (scope : Scope) (env : Env) (text : String) :
    (textNode text).HasText scope env text := ⟨_, rfl, rfl, rfl⟩

/-- The stray parenthesis closes the group around the pattern. -/
theorem stray_parenthesis_accepted :
    PatternLanguage.MatchesBy Matcher.spans ∧
      (textNode "a").HasText (fun _ => none) (fun _ => none) "a" ∧
      (textNode "a)|(b").HasText (fun _ => none) (fun _ => none) "a)|(b" ∧
      ∃ e, ((textNode "a").matchCharacters (textNode "a)|(b") none).check (fun _ => none) = .ok e ∧
        e.resolve (fun _ => none) = .ok (.boolean true) ∧
        ¬CalledFor Matcher.spans "a" "a)|(b" (e.resolve fun _ => none) := by
  have documented := Matcher.matchesBy_spans
  have first := textNode_hasText (fun _ => none) (fun _ => none) "a"
  have second := textNode_hasText (fun _ => none) (fun _ => none) "a)|(b"
  obtain ⟨e, checked, -, -, answered, called⟩ :=
    match_characters_whole documented first second none
  have stray : Matcher.StrayParenthesis "a)|(b" := ⟨"a", "|(b", rfl, rfl, Bool.false_ne_true⟩
  have invalid : ¬(PatternLanguage.compile? "a)|(b").isSome := by
    rw [Matcher.isSome_compile?_iff, stray.expression?]
    exact Bool.false_ne_true
  have read : Matcher.expression? (wholeText "a)|(b") = some (.alternation
      [.concat [.assertion .textStart, .group none (.literal 'a' .none)],
        .concat [.group (some 1) (.literal 'b' .none), .assertion .textEnd]]) := rfl
  have whole : (PatternLanguage.compile? (wholeText "a)|(b")).isSome := by
    rw [Matcher.isSome_compile?_iff, read]
    rfl
  obtain ⟨w, valid⟩ := Option.isSome_iff_exists.mp whole
  obtain ⟨b, made, spans⟩ := answered w valid
  have found : b = true := spans.mpr ⟨0, 1, Nat.zero_le _, _, read,
    .inl ⟨0, ⟨rfl, rfl⟩, 1, ⟨'a', rfl, by decide, rfl⟩, rfl⟩⟩
  exact ⟨documented, first, second, e, checked, found ▸ made, fun same =>
    invalid ((called.mp same).mpr whole)⟩

end Checking

end DatasetScript
