/-!
# Patterns

Regular expressions come from a library, which compiles texts to patterns. The program asks of a
pattern only whether it matches somewhere in a text and what the text becomes when its matches are
replaced. What libraries say of matching is stated here too, but the program does not rest on it:
what is proved without it holds with any library.
-/

namespace DatasetScript

/-- A pattern that has been compiled, by what it does. -/
structure Pattern where
  isMatch : String → Bool
  /-- the text with each match in it replaced by what the second text stands for -/
  replaceAll : String → String → String

/-- A library of regular expressions. -/
class PatternLanguage where
  /-- the pattern that a text stands for, if the text is a valid one -/
  compile? : String → Option Pattern

/-- The text of the pattern that matches a whole text where the given pattern does. -/
def Pattern.wholeText (text : String) : String := "^(?:" ++ text ++ ")$"

/-- What a library says of matching, where `spans t s i j` is that the expression `t` matches in the
text `s` from the place `i` to the place `j`. -/
structure PatternLanguage.MatchesBy [PatternLanguage] (spans : String → String → Nat → Nat → Prop) :
    Prop where
  /-- A pattern matches if its expression does anywhere in the text. -/
  isMatch_iff {t : String} {pattern : Pattern} (valid : compile? t = some pattern) (s : String) :
    pattern.isMatch s = true ↔ ∃ i j, spans t s i j
  start_iff {s : String} {i j : Nat} : spans "^" s i j ↔ i = 0 ∧ j = 0
  end_iff {s : String} {i j : Nat} : spans "$" s i j ↔ i = s.length ∧ j = s.length
  /-- Expressions next to each other match one after the other, a group where what is in it does. -/
  group_iff {t : String} (valid : (compile? t).isSome) (whole : (compile? (Pattern.wholeText t)).isSome)
    {s : String} {i l : Nat} : spans (Pattern.wholeText t) s i l ↔
      ∃ j k, spans "^" s i j ∧ spans t s j k ∧ spans "$" s k l

end DatasetScript
