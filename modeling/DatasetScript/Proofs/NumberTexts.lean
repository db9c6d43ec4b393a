import DatasetScript.Proofs.ShortestDigits
import DatasetScript.Proofs.Tokens
import DatasetScript.Number.Reading
import DatasetScript.Number.Layout
import Mathlib.Data.Set.Function
/-!
# Texts of numbers

A finite number is written as a numeral that is read as the same decimal, and the decimal determines
the number. Integers have neither a point nor an exponent. Main statements: `unsigned_writes`,
`write_inj`, and `numbers_injOn` for integers and numbers together.
-/

namespace DatasetScript

/-! ### Digits -/

def AreDigits (ds : List Char) : Prop := ∀ c ∈ ds, c.isDigit

theorem AreDigits.append {ds es : List Char} (left : AreDigits ds) (right : AreDigits es) :
    AreDigits (ds ++ es) :=
  List.forall_mem_append.mpr ⟨left, right⟩

theorem areDigits_zeros (k : Nat) : AreDigits (List.replicate k '0') := by
  intro c member
  rw [(List.mem_replicate.mp member).2]
  rfl

theorem areDigits_digits (n : Nat) : AreDigits (NumberLayout.digits n) :=
  fun _ member => Nat.isDigit_of_mem_toDigits (by omega) (by omega) member

namespace Numeral

theorem ofDigits_digits (n : Nat) : ofDigits (NumberLayout.digits n) = n :=
  Nat.ofDigitChars_toDigits (by omega) (by omega)

theorem ofDigits_zeros (ds : List Char) (k : Nat) :
    ofDigits (ds ++ List.replicate k '0') = ofDigits ds * 10 ^ k := by
  induction k with
  | zero => simp
  | succ k ih =>
    rw [List.replicate_succ', ← List.append_assoc]
    unfold ofDigits at ih ⊢
    rw [List.foldl_append, ih]
    simp
    ring

theorem ofDigits_leadingZeros (ds : List Char) (k : Nat) :
    ofDigits (List.replicate k '0' ++ ds) = ofDigits ds := by
  unfold ofDigits
  rw [List.foldl_append]
  congr 1
  induction k with
  | zero => rfl
  | succ k ih => simpa [List.replicate_succ] using ih

/-! ### Numerals -/

/-- Numerals with a point or an exponent. -/
structure Proper (n : Numeral) : Prop where
  nonempty : n.whole ≠ []
  whole : AreDigits n.whole
  fraction : ∀ ds ∈ n.fraction, AreDigits ds
  exponent : ∀ e ∈ n.exponent, e.2 ≠ [] ∧ AreDigits e.2
  marked : n.fraction ≠ none ∨ n.exponent ≠ none

def fractionText : Option (List Char) → List Char
  | some ds => '.' :: ds
  | none => []

def signText (down plusSign : Bool) : List Char :=
  if down then ['-'] else if plusSign then ['+'] else []

def exponentText (plusSign : Bool) : Option (Bool × List Char) → List Char
  | some (down, ds) => 'e' :: (signText down plusSign ++ ds)
  | none => []

/-- The text of a numeral without its sign. -/
def unsigned (plusSign : Bool) (n : Numeral) : List Char :=
  n.whole ++ (fractionText n.fraction ++ exponentText plusSign n.exponent)

/-! ### Reading -/

def splitSign : List Char → Bool × List Char
  | '-' :: ds => (true, ds)
  | '+' :: ds => (false, ds)
  | ds => (false, ds)

def splitFraction : List Char → Option (List Char) × List Char
  | '.' :: rest => (some (rest.takeWhile Char.isDigit), rest.dropWhile Char.isDigit)
  | rest => (none, rest)

def exponent? : List Char → Option (Option (Bool × List Char))
  | [] => some none
  | mark :: rest =>
    if mark = 'e' ∨ mark = 'E' then
      if (splitSign rest).2 ≠ [] ∧ (splitSign rest).2.all Char.isDigit then
        some (some (splitSign rest))
      else none
    else none

theorem ofUnsigned?_eq (negative : Bool) (text : List Char) :
    ofUnsigned? negative text =
      let (fraction, rest) := splitFraction (text.dropWhile Char.isDigit)
      (exponent? rest).map (⟨negative, text.takeWhile Char.isDigit, fraction, ·⟩) := by
  unfold ofUnsigned?
  generalize text.takeWhile Char.isDigit = whole
  generalize text.dropWhile Char.isDigit = text
  change (match (splitFraction text).2 with
    | [] => some (Numeral.mk negative whole (splitFraction text).1 none)
    | mark :: rest =>
      if mark = 'e' ∨ mark = 'E' then
        if (splitSign rest).2 ≠ [] ∧ (splitSign rest).2.all Char.isDigit = true then
          some (Numeral.mk negative whole (splitFraction text).1 (some (splitSign rest)))
        else none
      else none) = _
  dsimp only
  generalize (splitFraction text).2 = rest
  unfold exponent?
  cases rest with
  | nil => rfl
  | cons mark rest =>
    dsimp only
    repeat' split
    all_goals rfl

theorem span_digits {ds rest : List Char} (digits : AreDigits ds)
    (stop : ∀ c ∈ rest.head?, c.isDigit = false) :
    (ds ++ rest).takeWhile Char.isDigit = ds ∧ (ds ++ rest).dropWhile Char.isDigit = rest := by
  rw [List.takeWhile_append_of_pos digits, List.dropWhile_append_of_pos digits]
  cases rest with
  | nil => simp
  | cons c cs => simp [stop c rfl]

/-- Digits do not begin with a sign. -/
theorem splitSign_signText {ds : List Char} (digits : AreDigits ds) (down plusSign : Bool) :
    splitSign (signText down plusSign ++ ds) = (down, ds) := by
  unfold splitSign
  cases down <;> cases plusSign
  case false.false =>
    have digit := fun d tail (first : ds = d :: tail) => digits d (first ▸ List.mem_cons_self)
    simp only [signText, Bool.false_eq_true, if_false, List.nil_append]
    split
    · cases digit _ _ rfl
    · cases digit _ _ rfl
    · rfl
  all_goals rfl

theorem splitFraction_fractionText {fraction : Option (List Char)} {rest : List Char}
    (digits : ∀ ds ∈ fraction, AreDigits ds) (stop : ∀ c ∈ rest.head?, c.isDigit = false)
    (noPoint : rest.head? ≠ some '.') :
    splitFraction (fractionText fraction ++ rest) = (fraction, rest) := by
  unfold splitFraction fractionText
  cases fraction with
  | none =>
    dsimp only [List.nil_append]
    split
    · cases noPoint rfl
    · rfl
  | some ds =>
    obtain ⟨taken, dropped⟩ := span_digits (digits ds rfl) stop
    simp only [List.cons_append, taken, dropped]

theorem exponent?_exponentText {exponent : Option (Bool × List Char)}
    (digits : ∀ e ∈ exponent, e.2 ≠ [] ∧ AreDigits e.2) (plusSign : Bool) :
    exponent? (exponentText plusSign exponent) = some exponent := by
  cases exponent with
  | none => rfl
  | some e =>
    obtain ⟨down, ds⟩ := e
    obtain ⟨nonempty, digits⟩ := digits _ rfl
    unfold exponentText exponent?
    dsimp only at *
    rw [if_pos (Or.inl rfl), splitSign_signText digits,
      if_pos ⟨nonempty, List.all_eq_true.mpr digits⟩]

theorem ofUnsigned?_unsigned (plusSign : Bool) {n : Numeral} (proper : n.Proper) :
    ofUnsigned? n.negative (n.unsigned plusSign) = some n := by
  obtain ⟨negative, whole, fraction, exponent⟩ := n
  obtain ⟨-, wholeDigits, fractionDigits, exponentDigits, -⟩ := proper
  dsimp only at *
  have first : ∀ c ∈ (exponentText plusSign exponent).head?, c = 'e' := by
    cases exponent <;> simp [exponentText]
  have split := splitFraction_fractionText fractionDigits
    (fun c member => by rw [first c member]; rfl) (fun point => by cases first _ point)
  have stop : ∀ c ∈ (fractionText fraction ++ exponentText plusSign exponent).head?,
      c.isDigit = false := by
    cases fraction with
    | none => exact fun c member => by rw [first c member]; rfl
    | some ds => simp [fractionText]
  obtain ⟨taken, dropped⟩ := span_digits wholeDigits stop
  rw [ofUnsigned?_eq, unsigned]
  dsimp only
  rw [dropped, taken, split, exponent?_exponentText exponentDigits]
  rfl

/-! ### Written numbers -/

/-- The numeral is written as a text without its sign, and stands for a number. -/
structure Writes (n : Numeral) (plusSign : Bool) (text : List Char) (v : ℚ) : Prop where
  proper : n.Proper
  text : n.unsigned plusSign = text
  magnitude : n.toDecimal.magnitude = v

section Writes

variable {n : Numeral} {plusSign : Bool} {text : List Char} {v : ℚ}

theorem Writes.first (writes : n.Writes plusSign text v) : ∃ d ds, text = d :: ds ∧ d.isDigit := by
  obtain ⟨d, ds, whole⟩ := List.exists_cons_of_ne_nil writes.proper.nonempty
  refine ⟨d, ds ++ (fractionText n.fraction ++ exponentText plusSign n.exponent), ?_,
    writes.proper.whole d (by simp [whole])⟩
  rw [← writes.text, unsigned, whole]
  rfl

/-- Digits, signs, the point and the mark of the exponent. -/
theorem Writes.chars (writes : n.Writes plusSign text v) :
    ∀ c ∈ text, c.isDigit ∨ c ∈ ['.', 'e', '-', '+'] := by
  intro c member
  rw [← writes.text] at member
  obtain ⟨negative, whole, fraction, exponent⟩ := n
  obtain ⟨-, wholeDigits, fractionDigits, exponentDigits, -⟩ := writes.proper
  simp only [unsigned, List.mem_append] at member
  rcases member with member | member | member
  · exact .inl (wholeDigits c member)
  · cases fraction with
    | none => cases member
    | some ds =>
      rcases List.mem_cons.mp member with rfl | member
      · simp
      · exact .inl (fractionDigits ds rfl c member)
  · cases exponent with
    | none => cases member
    | some e =>
      obtain ⟨down, ds⟩ := e
      rcases List.mem_cons.mp member with rfl | member
      · simp
      rcases List.mem_append.mp member with member | member
      · cases down <;> cases plusSign <;> simp_all [signText]
      · exact .inl ((exponentDigits _ rfl).2 c member)

/-- A number has a point or an exponent. -/
theorem Writes.mark (writes : n.Writes plusSign text v) : ¬ AreDigits text := by
  intro digits
  rw [← writes.text] at digits
  obtain ⟨negative, whole, fraction, exponent⟩ := n
  simp only [unsigned] at digits
  cases fraction with
  | some ds => cases digits '.' (by simp [fractionText])
  | none =>
    cases exponent with
    | some e => cases digits 'e' (by simp [exponentText])
    | none => exact writes.proper.marked.elim (absurd rfl) (absurd rfl)

end Writes

theorem point_writes (negative plusSign : Bool) (whole fraction : List Char)
    (nonempty : whole ≠ []) (digits : AreDigits (whole ++ fraction)) :
    Writes ⟨negative, whole, some fraction, none⟩ plusSign (whole ++ '.' :: fraction)
      (ofDigits (whole ++ fraction) * 10 ^ (-(fraction.length : Int))) where
  proper :=
    { nonempty
      whole := fun c member => digits c (List.mem_append_left _ member)
      fraction := by
        intro ds same c member
        obtain rfl := Option.some.inj same
        exact digits c (List.mem_append_right _ member)
      exponent := by simp
      marked := by simp }
  text := by simp [unsigned, fractionText, exponentText]
  magnitude := by simp [toDecimal, Decimal.magnitude]

theorem magnitude_exponent (negative : Bool) (whole : List Char) (fraction : Option (List Char))
    (down : Bool) (ds : List Char) :
    (toDecimal ⟨negative, whole, fraction, some (down, ds)⟩).magnitude =
      ofDigits (whole ++ fraction.getD []) * 10 ^
        ((if down then -(ofDigits ds : Int) else ofDigits ds) - (fraction.getD []).length) := by
  cases down <;> rfl

end Numeral

namespace NumberLayout

theorem positional_writes (negative plusSign : Bool) {ds : List Char} (nonempty : ds ≠ [])
    (digits : AreDigits ds) (exponent : Int) :
    ∃ n : Numeral, n.negative = negative ∧
      n.Writes plusSign (positional ds exponent) (Numeral.ofDigits ds * 10 ^ exponent) := by
  unfold positional
  dsimp only
  split
  · rename_i whole
    have writes := Numeral.point_writes negative plusSign
      (ds ++ List.replicate exponent.toNat '0') ['0'] (by simp [nonempty])
      ((digits.append (areDigits_zeros _)).append (areDigits_zeros 1))
    refine ⟨_, rfl, writes.proper, writes.text, writes.magnitude.trans ?_⟩
    have zeros := Numeral.ofDigits_zeros ds (exponent.toNat + 1)
    rw [List.replicate_succ', ← List.append_assoc] at zeros
    rw [zeros]
    push_cast
    rw [mul_assoc, ← zpow_natCast, ← zpow_add₀ (by norm_num)]
    congr 2
    push_cast [Int.toNat_of_nonneg whole]
    simp
  split
  · rename_i fraction within
    have writes := Numeral.point_writes negative plusSign
      (ds.take (ds.length - (-exponent).toNat)) (ds.drop (ds.length - (-exponent).toNat))
      (by simp [nonempty]; omega) (by rwa [List.take_append_drop])
    refine ⟨_, rfl, writes.proper, writes.text, writes.magnitude.trans ?_⟩
    rw [List.take_append_drop, List.length_drop]
    congr 2
    omega
  · rename_i fraction beyond
    have writes := Numeral.point_writes negative plusSign ['0']
      (List.replicate ((-exponent).toNat - ds.length) '0' ++ ds) (by simp)
      ((areDigits_zeros 1).append ((areDigits_zeros _).append digits))
    refine ⟨_, rfl, writes.proper, writes.text, writes.magnitude.trans ?_⟩
    have zeros := Numeral.ofDigits_leadingZeros ds ((-exponent).toNat - ds.length + 1)
    rw [List.replicate_succ, List.cons_append] at zeros
    rw [List.singleton_append, zeros, List.length_append, List.length_replicate]
    congr 2
    omega

theorem scientific_writes (layout : NumberLayout) (negative : Bool) {ds : List Char}
    (nonempty : ds ≠ []) (areDigits : AreDigits ds) (power : Int) :
    ∃ n : Numeral, n.negative = negative ∧
      n.Writes layout.plusSign (layout.scientific ds power)
        (Numeral.ofDigits ds * 10 ^ (power + 1 - ds.length)) := by
  obtain ⟨d, rest, rfl⟩ := List.exists_cons_of_ne_nil nonempty
  refine ⟨⟨negative, [d], if rest = [] then none else some rest,
    some (decide (power < 0), digits power.natAbs)⟩, rfl, ?_, ?_, ?_⟩
  · refine ⟨by simp, ?_, ?_, ?_, by simp⟩
    · simpa [AreDigits] using areDigits d List.mem_cons_self
    · intro ds member c inside
      split at member
      · cases member
      · obtain rfl := Option.some.inj member
        exact areDigits c (List.mem_cons_of_mem d inside)
    · rintro e member
      obtain rfl := Option.some.inj member
      exact ⟨Nat.toDigits_ne_nil, areDigits_digits _⟩
  · unfold scientific
    cases rest <;>
    simp [Numeral.unsigned, Numeral.fractionText, Numeral.exponentText, Numeral.signText]
  · have fraction : (if rest = [] then none else some rest).getD [] = rest := by
      split <;> simp_all
    have shift : (if power < 0 then -(power.natAbs : Int) else power.natAbs) = power := by
      split <;> omega
    rw [Numeral.magnitude_exponent, fraction, Numeral.ofDigits_digits]
    simp only [decide_eq_true_eq, shift, List.singleton_append, List.length_cons]
    congr 2
    omega

/-- The text of a decimal without its sign. -/
def unsigned (layout : NumberLayout) (x : Decimal) : List Char :=
  let power : Int := (digits x.coefficient).length + x.exponent - 1
  if layout.leastPower ≤ power ∧ power ≤ layout.greatestPower then
    positional (digits x.coefficient) x.exponent
  else layout.scientific (digits x.coefficient) power

theorem writeDecimal_eq (layout : NumberLayout) (x : Decimal) :
    layout.writeDecimal x = if x.negative then '-' :: layout.unsigned x else layout.unsigned x :=
  rfl

theorem unsigned_writes (layout : NumberLayout) (x : Decimal) :
    ∃ n : Numeral, n.negative = x.negative ∧
      n.Writes layout.plusSign (layout.unsigned x) x.magnitude := by
  have nonempty : digits x.coefficient ≠ [] := Nat.toDigits_ne_nil
  have areDigits := areDigits_digits x.coefficient
  have value := Numeral.ofDigits_digits x.coefficient
  unfold unsigned Decimal.magnitude
  dsimp only
  split
  · have writes := positional_writes x.negative layout.plusSign nonempty areDigits x.exponent
    rwa [value] at writes
  · have writes := layout.scientific_writes x.negative nonempty areDigits
      ((digits x.coefficient).length + x.exponent - 1)
    rwa [value, sub_add_cancel, add_sub_cancel_left] at writes

theorem writeDecimal_determines {layout : NumberLayout} {x y : Decimal}
    (same : layout.writeDecimal x = layout.writeDecimal y) :
    x.negative = y.negative ∧ x.magnitude = y.magnitude := by
  obtain ⟨m, signX, writesX⟩ := layout.unsigned_writes x
  obtain ⟨n, signY, writesY⟩ := layout.unsigned_writes y
  obtain ⟨d, ds, firstX, digitX⟩ := writesX.first
  obtain ⟨e, es, firstY, digitY⟩ := writesY.first
  have noMinus {d : Char} (digit : d.isDigit) : d ≠ '-' := by
    rintro rfl
    cases digit
  rw [writeDecimal_eq, writeDecimal_eq, firstX, firstY] at same
  have sign : x.negative = y.negative := by
    cases negativeX : x.negative <;> cases negativeY : y.negative <;>
    simp [negativeX, negativeY, noMinus digitX, (noMinus digitY).symm] at same ⊢
  refine ⟨sign, ?_⟩
  have texts : layout.unsigned x = layout.unsigned y := by
    rw [firstX, firstY]
    rw [sign] at same
    split at same
    · exact List.tail_eq_of_cons_eq same
    · exact same
  have readX := Numeral.ofUnsigned?_unsigned layout.plusSign writesX.proper
  have readY := Numeral.ofUnsigned?_unsigned layout.plusSign writesY.proper
  rw [writesX.text, signX, sign, texts, ← writesY.text, ← signY, readY] at readX
  rw [← writesX.magnitude, ← writesY.magnitude, Option.some.inj readX]

end NumberLayout

/-! ### Texts of literals -/

/-- The text of a finite double determines it. -/
theorem write_inj {layout : NumberLayout} {x y : Float} (finiteX : x.isFinite)
    (finiteY : y.isFinite) (same : layout.write x = layout.write y) : x = y := by
  obtain ⟨b, fieldsX⟩ := Option.isSome_iff_exists.mp ((Binary64.isFinite_iff x).mp finiteX)
  obtain ⟨c, fieldsY⟩ := Option.isSome_iff_exists.mp ((Binary64.isFinite_iff y).mp finiteY)
  have normalX := Binary64.ofFloat?_normal fieldsX
  have normalY := Binary64.ofFloat?_normal fieldsY
  unfold NumberLayout.write at same
  rw [fieldsX, fieldsY] at same
  obtain ⟨sign, magnitude⟩ := NumberLayout.writeDecimal_determines (String.ofList_injective same)
  rw [Decimal.shortest_negative, Decimal.shortest_negative] at sign
  have holdsX := Decimal.shortest_holds layout.tie normalX
  have holdsY := Decimal.shortest_holds layout.tie normalY
  rw [← magnitude] at holdsY
  obtain ⟨significand, exponent⟩ := Decimal.eq_of_holds normalX normalY holdsX holdsY
  have fields : b = c := by
    cases b
    cases c
    simp_all
  exact Binary64.ofFloat?_inj fieldsX (fields ▸ fieldsY)

/-- A numeral of an integer or a number: a sign, a digit, and no blanks or marks behind that. -/
def IsNumeral (w : String) : Prop :=
  ∃ d ds, d.isDigit ∧ (∀ c ∈ ds, isWordChar c) ∧ (w.toList = d :: ds ∨ w.toList = '-' :: d :: ds)

theorem isWordChar_of_isDigit {d : Char} (digit : d.isDigit) : isWordChar d := by
  rw [isWordChar_iff]
  refine ⟨?_, ?_, fun mark => ?_⟩
  · rintro rfl
    cases digit
  · rintro rfl
    cases digit
  · simp only [marks, List.mem_cons, List.not_mem_nil, or_false] at mark
    rcases mark with rfl | rfl | rfl | rfl | rfl | rfl | rfl <;> cases digit

theorem isSign_of_isDigit {d : Char} (digit : d.isDigit) (cs : List Char) :
    isSign d cs = false := by
  have other : d ≠ '+' ∧ d ≠ '-' := by
    constructor <;> (rintro rfl; cases digit)
  simp [isSign, other]

theorem IsNumeral.isWord {w : String} (h : IsNumeral w) : IsWord w := by
  obtain ⟨d, ds, digit, chars, same | same⟩ := h
  · rw [IsWord, same, isWord_cons]
    exact ⟨List.forall_mem_cons.mpr ⟨isWordChar_of_isDigit digit, chars⟩,
      isSign_of_isDigit digit ds⟩
  · rw [IsWord, same, isWord_cons]
    refine ⟨List.forall_mem_cons.mpr ⟨by decide, ?_⟩, by simp [isSign, digit]⟩
    exact List.forall_mem_cons.mpr ⟨isWordChar_of_isDigit digit, chars⟩

theorem IsNumeral.first {w : String} (h : IsNumeral w) :
    w.toList.head?.any (fun c => c.isDigit || c == '-') := by
  obtain ⟨d, ds, digit, -, same | same⟩ := h <;> simp [same, digit]

/-- A numeral is none of the words that begin with a letter. -/
theorem IsNumeral.ne {w v : String} (h : IsNumeral w)
    (letter : ¬ v.toList.head?.any (fun c => c.isDigit || c == '-')) : w ≠ v := by
  rintro rfl
  exact letter h.first

/-- Integers and finite numbers. -/
def Literal.IsNumber : Literal → Prop
  | .integer _ => True
  | .number x => x.isFinite
  | _ => False

theorem toList_integer (i : Int) :
    (toString i).toList =
      if 0 ≤ i then NumberLayout.digits i.natAbs else '-' :: NumberLayout.digits i.natAbs := by
  change i.repr.toList = _
  rw [Int.repr_eq_if]
  split <;> rename_i sign
  · rw [show i.toNat = i.natAbs by omega, Nat.repr_eq_ofList_toDigits, String.toList_ofList]
    rfl
  · rw [show (-i).toNat = i.natAbs by omega, Nat.repr_eq_ofList_toDigits]
    simp [NumberLayout.digits]

theorem toList_number {x : Float} (finite : x.isFinite) :
    ∃ (n : Numeral) (text : List Char) (v : ℚ), n.Writes false text v ∧
      ((Literal.number x).text.toList = text ∨ (Literal.number x).text.toList = '-' :: text) := by
  obtain ⟨b, fields⟩ := Option.isSome_iff_exists.mp ((Binary64.isFinite_iff x).mp finite)
  obtain ⟨n, -, writes⟩ :=
    NumberLayout.message.unsigned_writes (.shortest NumberLayout.message.tie b)
  refine ⟨n, _, _, writes, ?_⟩
  rw [Literal.text, NumberLayout.write, fields]
  dsimp only
  rw [String.toList_ofList, NumberLayout.writeDecimal_eq]
  split
  · exact .inr rfl
  · exact .inl rfl

theorem isNumeral_text {l : Literal} (number : l.IsNumber) : IsNumeral l.text := by
  cases l with
  | integer i =>
    have digits := areDigits_digits i.toInt.natAbs
    have nonempty : NumberLayout.digits i.toInt.natAbs ≠ [] := Nat.toDigits_ne_nil
    have text := toList_integer i.toInt
    obtain ⟨d, ds, shape⟩ := List.exists_cons_of_ne_nil nonempty
    rw [shape] at text digits
    refine ⟨d, ds, digits d List.mem_cons_self,
      fun c member => isWordChar_of_isDigit (digits c (List.mem_cons_of_mem d member)), ?_⟩
    rw [Literal.text, text]
    split
    · exact .inl rfl
    · exact .inr rfl
  | number x =>
    obtain ⟨n, text, v, writes, shape⟩ := toList_number number
    obtain ⟨d, ds, rfl, digit⟩ := writes.first
    refine ⟨d, ds, digit, fun c member => ?_, shape⟩
    rcases writes.chars c (List.mem_cons_of_mem d member) with digit | mark
    · exact isWordChar_of_isDigit digit
    · simp only [List.mem_cons, List.not_mem_nil, or_false] at mark
      rcases mark with rfl | rfl | rfl | rfl <;> decide
  | _ => cases number

theorem toString_inj {i j : Int} (same : toString i = toString j) : i = j := by
  have digitsI := areDigits_digits i.natAbs
  have digitsJ := areDigits_digits j.natAbs
  have texts := congrArg String.toList same
  have absolute (same : NumberLayout.digits i.natAbs = NumberLayout.digits j.natAbs) :
      i.natAbs = j.natAbs := by
    rw [← Numeral.ofDigits_digits i.natAbs, same, Numeral.ofDigits_digits]
  rw [toList_integer, toList_integer] at texts
  split at texts <;> split at texts
  · have := absolute texts
    omega
  · cases digitsI '-' (texts ▸ List.mem_cons_self)
  · cases digitsJ '-' (texts ▸ List.mem_cons_self)
  · have := absolute (List.tail_eq_of_cons_eq texts)
    omega

theorem integer_ne_number (i : Int64) {x : Float} (finite : x.isFinite) :
    (Literal.integer i).text ≠ (Literal.number x).text := by
  intro same
  have digits := areDigits_digits i.toInt.natAbs
  obtain ⟨n, text, v, writes, shape⟩ := toList_number finite
  rw [← same, Literal.text, toList_integer] at shape
  split at shape <;> rcases shape with rfl | shape
  · exact writes.mark digits
  · cases digits '-' (shape ▸ List.mem_cons_self)
  · obtain ⟨d, ds, first, digit⟩ := writes.first
    cases first
    cases digit
  · exact writes.mark (List.tail_eq_of_cons_eq shape ▸ digits)

/-- The text of an integer or a finite number determines it. -/
theorem numbers_injOn : Set.InjOn Literal.text (Set.ofPred Literal.IsNumber) := by
  rintro l number l' number' same
  cases l with
  | integer i =>
    cases l' with
    | integer j => rw [Int64.toInt_inj.mp (toString_inj same)]
    | number y => exact absurd same (integer_ne_number i number')
    | _ => cases number'
  | number x =>
    cases l' with
    | integer j => exact absurd same.symm (integer_ne_number j number)
    | number y => rw [write_inj number number' same]
    | _ => cases number'
  | _ => cases number

end DatasetScript
