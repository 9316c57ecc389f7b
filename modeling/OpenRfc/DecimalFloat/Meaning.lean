import OpenRfc.DecimalFloat.Text
import Mathlib.Tactic.FieldSimp

/-!
What decimal texts denote. A text which is parsed denotes the value it is parsed to, and the text
of a value is parsed to the value.
-/

namespace OpenRfc.DecimalFloat
open Fallible Numeral

/-- A signed number, an infinity, or a NaN with its payload. -/
inductive Meaning
  | number (negative : Bool) (value : ℚ)
  | infinity (negative : Bool)
  | nan (negative signaling : Bool) (payload : Nat)

/-- The number with a coefficient and an exponent. -/
def scaled (coefficient : Digits) (exponent : Int) : ℚ := coefficient.number * 10 ^ exponent

/-- What a text denotes: the groups of the patterns, without a range. A NaN is signaling when its
word has the letter in front. -/
def meaningOf (s : JsString) : Option Meaning :=
  match matchSpecial s with
  | some (.infinity negative) => some (.infinity negative)
  | some (.nan negative word digits) =>
    some (.nan negative (word.length = snanWord.length) digits.number)
  | none =>
    (matchFinite s).map fun found =>
      .number found.negative
        (scaled (found.integer ++ found.fraction) (found.exponent - found.fraction.length))

def DecimalValue.meaning : DecimalValue → Meaning
  | .finite value => .number value.negative (scaled value.coefficient value.exponent)
  | .special value =>
    match value.kind with
    | .infinity => .infinity value.negative
    | kind => .nan value.negative (kind = .snan) value.diagnostic.number

section Scaling
variable {format : DecimalFloatFormat} {path : String} {coefficient coefficient' : Digits}
  {exponent exponent' : Int}

theorem scaled_append_zeros (coefficient : Digits) (exponent : Int) (count : Nat) :
    scaled (coefficient ++ List.replicate count 0) exponent =
      scaled coefficient (exponent + count) := by
  have hten : (10 : ℚ) ≠ 0 := by norm_num
  rw [scaled, Digits.number_append, Digits.number_zeros, List.length_replicate, scaled,
    zpow_add₀ hten, zpow_natCast]
  push_cast
  ring

theorem scaled_take {count : Nat} (h : count ≤ coefficient.trailingZeroCount)
    (exponent : Int) :
    scaled (coefficient.take (coefficient.length - count)) (exponent + count) =
      scaled coefficient exponent := by
  rw [← scaled_append_zeros, Digits.take_append_zeros _ h]

theorem shortenCoefficient_eq_ok (hnormal : Digits.Normal coefficient)
    (h : shortenCoefficient format path coefficient exponent = .ok (coefficient', exponent')) :
    Digits.Normal coefficient' ∧ (coefficient' = [0] ∨ coefficient'.length ≤ format.precision) ∧
      scaled coefficient' exponent' = scaled coefficient exponent := by
  rw [shortenCoefficient] at h
  split at h
  · rename_i hlong
    obtain ⟨hne, hlength⟩ := hlong
    have hleading := hnormal.resolve_left hne
    obtain ⟨_, hzeros, h⟩ := bind_eq_ok.mp h
    rw [require_eq_ok] at hzeros
    obtain ⟨rfl, rfl⟩ := Prod.mk.inj (Except.ok.inj h)
    have hlt := hleading.trailingZeroCount_lt
    refine ⟨.inr (hleading.take (by omega)), .inr ?_, scaled_take hzeros exponent⟩
    rw [List.length_take]
    omega
  · rename_i hshort
    obtain ⟨rfl, rfl⟩ := Prod.mk.inj (Except.ok.inj h)
    refine ⟨hnormal, ?_, rfl⟩
    by_cases hzero : coefficient = [0]
    · exact .inl hzero
    · exact .inr (by_contra fun hlength => hshort ⟨hzero, by omega⟩)

theorem minimum_le_maximum (format : DecimalFloatFormat) :
    minimumExponent format ≤ maximumExponent format := by
  have hpow : (1 : Int) ≤ 2 ^ format.exponentContinuationBits := by
    exact_mod_cast Nat.one_le_two_pow
  rw [minimumExponent, maximumExponent]
  omega

theorem one_le_precision (format : DecimalFloatFormat) : 1 ≤ format.precision := by
  have hdigits := format.digits
  omega

theorem fitExponent_eq_ok (hnormal : Digits.Normal coefficient)
    (hlength : coefficient = [0] ∨ coefficient.length ≤ format.precision)
    (h : fitExponent format path coefficient exponent = .ok (coefficient', exponent')) :
    Digits.Normal coefficient' ∧ coefficient'.length ≤ format.precision ∧
      minimumExponent format ≤ exponent' ∧ exponent' ≤ maximumExponent format ∧
      scaled coefficient' exponent' = scaled coefficient exponent := by
  have hrange := minimum_le_maximum format
  have hprecision := one_le_precision format
  rw [fitExponent] at h
  split at h
  · rename_i hzero
    obtain ⟨rfl, rfl⟩ := Prod.mk.inj (Except.ok.inj h)
    refine ⟨.inl rfl, hprecision, by omega, by omega, ?_⟩
    rw [hzero, scaled, scaled, Digits.number_singleton]
    simp
  · rename_i hne
    have hleading := hnormal.resolve_left hne
    have hlength := hlength.resolve_left hne
    split at h
    · obtain ⟨_, hzeros, h⟩ := bind_eq_ok.mp h
      rw [require_eq_ok] at hzeros
      obtain ⟨rfl, rfl⟩ := Prod.mk.inj (Except.ok.inj h)
      refine ⟨.inr (hleading.append _), ?_, hrange, le_rfl, ?_⟩
      · rw [List.length_append, List.length_replicate]
        omega
      · rw [scaled_append_zeros]
        congr 1
        omega
    · split at h
      · obtain ⟨_, hzeros, h⟩ := bind_eq_ok.mp h
        rw [require_eq_ok] at hzeros
        obtain ⟨rfl, rfl⟩ := Prod.mk.inj (Except.ok.inj h)
        have hlt := hleading.trailingZeroCount_lt
        refine ⟨.inr (hleading.take (by omega)), ?_, le_rfl, hrange, ?_⟩
        · rw [List.length_take]
          omega
        · have htake := scaled_take (by omega : (minimumExponent format - exponent).toNat ≤
            coefficient.trailingZeroCount) exponent
          rw [← htake]
          congr 1
          omega
      · obtain ⟨rfl, rfl⟩ := Prod.mk.inj (Except.ok.inj h)
        exact ⟨hnormal, hlength, by omega, by omega, rfl⟩

end Scaling

section Parsing
variable {format : DecimalFloatFormat} {path : String} {s : JsString} {value : DecimalValue}

/-- A value with no zeros which could be left out. -/
def DecimalValue.Normal : DecimalValue → Prop
  | .finite value => Digits.Normal value.coefficient
  | .special _ => True

theorem finite_valid {value : FiniteDecimal} (hlength : value.coefficient.length ≤ format.precision)
    (hlow : minimumExponent format ≤ value.exponent)
    (hhigh : value.exponent ≤ maximumExponent format) :
    (DecimalValue.finite value).Valid format := by
  rw [minimumExponent] at hlow
  rw [maximumExponent] at hhigh
  exact ⟨hlength, by omega, by omega⟩

theorem parseFinite_eq_ok {value : FiniteDecimal} (h : parseFinite format path s = .ok value) :
    ∃ found, matchFinite s = some found ∧ (DecimalValue.finite value).Valid format ∧
      (DecimalValue.finite value).Normal ∧
      (DecimalValue.finite value).meaning = .number found.negative
        (scaled (found.integer ++ found.fraction) (found.exponent - found.fraction.length)) := by
  rw [parseFinite] at h
  cases hfound : matchFinite s with
  | none =>
      rw [hfound] at h
      exact absurd h nofun
  | some found =>
      rw [hfound] at h
      obtain ⟨⟨coefficient, exponent⟩, hshorten, h⟩ := bind_eq_ok.mp h
      obtain ⟨⟨coefficient', exponent'⟩, hfit, h⟩ := bind_eq_ok.mp h
      obtain ⟨hnormal, hlength, hscaled⟩ :=
        shortenCoefficient_eq_ok (Digits.normal_significant _) hshorten
      obtain ⟨hnormal', hlength', hlow, hhigh, hscaled'⟩ :=
        fitExponent_eq_ok hnormal hlength hfit
      rw [← Except.ok.inj h]
      refine ⟨found, rfl, finite_valid hlength' hlow hhigh, hnormal', ?_⟩
      rw [DecimalValue.meaning, hscaled', hscaled, scaled, Digits.number_significant]
      rfl

theorem nan_kind_ne (p : Prop) [Decidable p] :
    (if p then SpecialKind.snan else SpecialKind.nan) ≠ .infinity := by
  split
  · exact nofun
  · exact nofun

theorem parseSpecial_eq_ok {special : SpecialDecimal}
    (h : parseSpecial s format path = .ok (some special)) :
    ∃ found, matchSpecial s = some found ∧ (DecimalValue.special special).Valid format ∧
      (DecimalValue.special special).meaning = (match found with
        | .infinity negative => .infinity negative
        | .nan negative word digits =>
          .nan negative (word.map toLowerCase = snanWord) digits.number) := by
  rw [parseSpecial] at h
  cases hfound : matchSpecial s with
  | none =>
      rw [hfound] at h
      exact absurd h nofun
  | some found =>
      rw [hfound] at h
      refine ⟨found, rfl, ?_⟩
      cases found with
      | infinity negative =>
          rw [← Option.some.inj (Except.ok.inj h)]
          exact ⟨rfl, rfl⟩
      | nan negative word digits =>
          obtain ⟨_, hlength, h⟩ := bind_eq_ok.mp h
          rw [require_eq_ok] at hlength
          rw [← Option.some.inj (Except.ok.inj h)]
          constructor
          · rw [DecimalValue.Valid, if_neg (nan_kind_ne _)]
            exact ⟨hlength, Digits.stripZeros_stripZeros _⟩
          · by_cases hword : word.map toLowerCase = snanWord
            · simp only [DecimalValue.meaning, if_pos hword, decide_eq_true hword,
                Digits.number_stripZeros]
              rfl
            · simp only [DecimalValue.meaning, if_neg hword, decide_eq_false hword,
                Digits.number_stripZeros]
              rfl

end Parsing

section Formatting
variable {negative : Bool} {integer fraction digits : Digits} {tail : JsString}

theorem head_text {digits : Digits} (h : digits ≠ []) (rest : JsString) :
    ∀ unit ∈ (text digits ++ rest).head?, unit ≠ 0x2d ∧ unit ≠ 0x2b := by
  obtain ⟨digit, digits, rfl⟩ := List.exists_cons_of_ne_nil h
  intro unit hunit
  obtain rfl : unitOf digit = unit := Option.some.inj hunit
  exact ne_sign_unitOf digit

/-- A number without a point. -/
theorem matchFinite_plain (negative : Bool) (hne : integer ≠ []) (htail : NoDigit tail)
    (hpoint : tail.head? ≠ some 0x2e) :
    matchFinite (signText negative ++ (text integer ++ tail)) =
      (readExponent tail).map fun exponent => ⟨negative, integer, [], exponent⟩ := by
  have hfraction : readFraction tail = ([], tail) := by
    unfold readFraction
    split
    · exact absurd rfl hpoint
    · rfl
  rw [matchFinite, readSign_signText negative (head_text hne tail)]
  dsimp only
  rw [readDigits_text integer htail, hfraction]
  dsimp only
  rw [if_neg fun h => hne h.1]

/-- A number with a point. -/
theorem matchFinite_point (negative : Bool) (fraction : Digits) (hne : integer ≠ []) (htail : NoDigit tail) :
    matchFinite (signText negative ++ (text integer ++ 0x2e :: (text fraction ++ tail))) =
      (readExponent tail).map fun exponent => ⟨negative, integer, fraction, exponent⟩ := by
  have hpoint : NoDigit (0x2e :: (text fraction ++ tail)) := by
    intro unit hunit
    obtain rfl : 0x2e = unit := Option.some.inj hunit
    decide
  rw [matchFinite, readSign_signText negative (head_text hne _)]
  dsimp only
  rw [readDigits_text integer hpoint]
  dsimp only
  rw [readFraction, readDigits_text fraction htail]
  dsimp only
  rw [if_neg fun h => hne h.1]

/-- The exponent of a number in scientific notation. -/
def exponentText (exponent : Int) : JsString :=
  0x45 :: ((if 0 ≤ exponent then [0x2b] else []) ++ intText exponent)

theorem noDigit_exponentText (exponent : Int) : NoDigit (exponentText exponent) := by
  intro unit hunit
  obtain rfl : 0x45 = unit := Option.some.inj hunit
  decide

theorem readExponent_exponentText (exponent : Int) :
    readExponent (exponentText exponent) = some exponent := by
  obtain ⟨digit, digits, hdigits⟩ :=
    List.exists_cons_of_ne_nil (Digits.ofNat_ne_nil exponent.natAbs)
  have hnumber := Digits.number_ofNat exponent.natAbs
  rw [hdigits] at hnumber
  rw [exponentText, readExponent, if_pos (.inr rfl), intText, hdigits]
  by_cases hsign : 0 ≤ exponent
  · have hread : readSign ([0x2b] ++ (signText (decide (exponent < 0)) ++
        text (digit :: digits))) = (false, text (digit :: digits)) := by
      rw [decide_eq_false (by omega)]
      rfl
    rw [if_pos hsign, hread]
    dsimp only
    rw [readDigits_text_nil]
    dsimp only
    rw [hnumber]
    simp only [Bool.false_eq_true, if_false]
    congr 1
    omega
  · have hread : readSign ([] ++ (signText (decide (exponent < 0)) ++
        text (digit :: digits))) = (true, text (digit :: digits)) := by
      rw [decide_eq_true (by omega)]
      rfl
    rw [if_neg hsign, hread]
    dsimp only
    rw [readDigits_text_nil]
    dsimp only
    rw [hnumber]
    simp only [if_true]
    congr 1
    omega

theorem noDigit_nil : NoDigit [] := nofun

/-- The text of a number is matched, and its groups have the digits and the exponent. -/
theorem matchFinite_formatBody (negative : Bool) (hnormal : Digits.Normal digits)
    (exponent : Int) :
    ∃ found, matchFinite (signText negative ++ formatBody digits exponent) = some found ∧
      found.negative = negative ∧
      Digits.significant (found.integer ++ found.fraction) = digits ∧
      found.exponent - found.fraction.length = exponent := by
  have hne := hnormal.ne_nil
  have hlength : 0 < digits.length := List.length_pos_iff.mpr hne
  have hsignificant := hnormal.significant_eq
  rw [formatBody]
  dsimp only
  split
  · split
    · rename_i hzero
      have hmatch := matchFinite_plain negative hne noDigit_nil (by simp)
      rw [List.append_nil] at hmatch
      refine ⟨_, hmatch, rfl, ?_, ?_⟩
      · rwa [List.append_nil]
      · rw [hzero]
        rfl
    · split
      · rename_i hplain hnonzero hpoint
        have htake : digits.take (digits.length + exponent).toNat ≠ [] := by
          rw [Ne, List.take_eq_nil_iff, not_or]
          exact ⟨by omega, hne⟩
        have hmatch := matchFinite_point negative
          (digits.drop (digits.length + exponent).toNat) htake noDigit_nil
        rw [List.append_nil] at hmatch
        refine ⟨_, hmatch, rfl, ?_, ?_⟩
        · rwa [List.take_append_drop]
        · dsimp only
          rw [List.length_drop]
          omega
      · rename_i hplain hnonzero hpoint
        have hmatch := matchFinite_point negative
          (List.replicate (-(digits.length + exponent)).toNat 0 ++ digits)
          (List.cons_ne_nil (0 : Digit) []) noDigit_nil
        rw [List.append_nil, text, text, List.map_append] at hmatch
        refine ⟨_, hmatch, rfl, ?_, ?_⟩
        · dsimp only
          rw [List.singleton_append, ← List.cons_append, ← List.replicate_succ,
            Digits.significant_zeros_append, hsignificant]
        · dsimp only
          rw [List.length_append, List.length_replicate]
          omega
  · have hread := readExponent_exponentText (exponent + digits.length - 1)
    split
    · rename_i hone
      have hmatch := matchFinite_plain negative hne
        (noDigit_exponentText (exponent + digits.length - 1)) (by simp [exponentText])
      rw [hread] at hmatch
      refine ⟨_, hmatch, rfl, ?_, ?_⟩
      · rwa [List.append_nil]
      · dsimp only
        rw [List.length_nil]
        omega
    · have htake : digits.take 1 ≠ [] := by
        rw [Ne, List.take_eq_nil_iff, not_or]
        exact ⟨by omega, hne⟩
      have hmatch := matchFinite_point negative (digits.drop 1) htake
        (noDigit_exponentText (exponent + digits.length - 1))
      rw [hread] at hmatch
      rw [List.append_assoc, List.cons_append]
      refine ⟨_, hmatch, rfl, ?_, ?_⟩
      · rwa [List.take_append_drop]
      · dsimp only
        rw [List.length_drop]
        omega

theorem length_text (digits : Digits) : (text digits).length = digits.length :=
  List.length_map _

theorem length_signText_le (negative : Bool) : (signText negative).length ≤ 1 := by
  cases negative with
  | false => exact Nat.zero_le _
  | true => exact le_rfl

theorem length_intText_le {n : Int} {width : Nat} (hwidth : 0 < width)
    (h : n.natAbs < 10 ^ width) : (intText n).length ≤ width + 1 := by
  have hsign := length_signText_le (n < 0)
  have hdigits := Digits.length_ofNat_le hwidth h
  rw [intText, List.length_append, length_text]
  omega

theorem length_formatBody_le {exponent : Int} (hdigits : digits.length ≤ 34)
    (hlow : -6176 ≤ exponent) (hhigh : exponent < 12288) :
    (formatBody digits exponent).length ≤ 60 := by
  rw [formatBody]
  dsimp only
  split
  · split
    · rw [length_text]
      omega
    · split
      · rw [List.length_append, List.length_cons, length_text, length_text, List.length_take,
          List.length_drop]
        omega
      · rw [List.length_cons, List.length_cons, List.length_append, length_text, length_text,
          List.length_replicate]
        omega
  · have hint : (intText (exponent + digits.length - 1)).length ≤ 6 :=
      length_intText_le (by decide : 0 < 5) (by omega)
    have hplus : (if 0 ≤ exponent + digits.length - 1 then [0x2b] else [] : JsString).length ≤
        1 := by
      split
      · exact le_rfl
      · exact Nat.zero_le _
    rw [List.length_append, List.length_cons, List.length_append]
    split
    · rw [length_text]
      omega
    · rw [List.length_append, List.length_cons, length_text, length_text, List.length_take,
        List.length_drop]
      omega

/-- The text of a number starts with a digit. -/
theorem head_formatBody (hne : digits ≠ []) (exponent : Int) :
    ∃ digit rest, formatBody digits exponent = unitOf digit :: rest := by
  obtain ⟨digit, rest, rfl⟩ := List.exists_cons_of_ne_nil hne
  rw [formatBody]
  dsimp only
  split
  · split
    · exact ⟨digit, text rest, rfl⟩
    · split
      · rename_i hpoint
        obtain ⟨count, hcount⟩ : ∃ count, ((digit :: rest).length + exponent).toNat = count + 1 :=
          ⟨((digit :: rest).length + exponent).toNat - 1, by omega⟩
        rw [hcount]
        exact ⟨digit, _, rfl⟩
      · exact ⟨0, _, rfl⟩
  · split
    · exact ⟨digit, _, rfl⟩
    · exact ⟨digit, _, rfl⟩

theorem foldCase_unitOf : ∀ digit : Digit, foldCase (unitOf digit) ≠ 0x69 ∧
    foldCase (unitOf digit) ≠ 0x73 ∧ foldCase (unitOf digit) ≠ 0x6e := by decide

/-- What starts with another character than the special values is none of them. -/
theorem matchSpecial_of_head {s : JsString} {unit : UInt16} {rest : JsString}
    (hread : (readSign s).2 = unit :: rest)
    (hunit : foldCase unit ≠ 0x69 ∧ foldCase unit ≠ 0x73 ∧ foldCase unit ≠ 0x6e) :
    matchSpecial s = none := by
  obtain ⟨hi, hs, hn⟩ := hunit
  have hword {first : UInt16} {word : JsString} (hne : foldCase unit ≠ first) :
      readWord (first :: word) (unit :: rest) = none := by
    rw [readWord, if_neg]
    intro h
    exact hne (List.cons.inj h).1
  rw [matchSpecial]
  dsimp only
  rw [hread, if_neg, snanWord, nanWord, hword hs, hword hn]
  · rfl
  · rintro (h | h)
    · exact hi (List.cons.inj h).1
    · exact hi (List.cons.inj h).1

/-- What starts with a digit is no special value. -/
theorem matchSpecial_digit (negative : Bool) (digit : Digit) (rest : JsString) :
    matchSpecial (signText negative ++ unitOf digit :: rest) = none := by
  have hsign : readSign (signText negative ++ unitOf digit :: rest) =
      (negative, unitOf digit :: rest) := by
    apply readSign_signText
    intro unit hunit
    obtain rfl : unitOf digit = unit := Option.some.inj hunit
    exact ne_sign_unitOf digit
  exact matchSpecial_of_head (congrArg Prod.snd hsign) (foldCase_unitOf digit)

/-- A number starts with a digit or with its point. -/
theorem matchSpecial_of_matchFinite {s : JsString} {found : FiniteMatch}
    (h : matchFinite s = some found) : matchSpecial s = none := by
  have hdigits := text_readDigits (readSign s).2
  cases hinteger : (readDigits (readSign s).2).1 with
  | cons digit digits =>
      rw [hinteger] at hdigits
      exact matchSpecial_of_head hdigits.symm (foldCase_unitOf digit)
  | nil =>
      rw [hinteger] at hdigits
      cases hrest : (readSign s).2 with
      | nil =>
          rw [matchFinite] at h
          simp [hrest, readDigits, readFraction] at h
      | cons unit rest =>
          by_cases hpoint : unit = 0x2e
          · exact matchSpecial_of_head hrest (by rw [hpoint]; decide)
          · have hfraction : (readFraction (unit :: rest)).1 = [] := by
              unfold readFraction
              split
              · rename_i heq
                exact absurd (List.cons.inj heq).1 hpoint
              · rfl
            have hsecond : (readDigits (readSign s).2).2 = unit :: rest := hdigits.trans hrest
            rw [matchFinite] at h
            simp [hinteger, hsecond, hfraction] at h

end Formatting
end OpenRfc.DecimalFloat
