import OpenRfc.DecimalFloat.Meaning

/-!
Decimal texts are encoded without a loss, and byte strings are decoded to texts which are encoded
in canonical form. The one text whose meaning is not kept is a signaling NaN which is spelled with
the long s.
-/

namespace OpenRfc.DecimalFloat
open Fallible Numeral

section Special
variable {format : DecimalFloatFormat} {path : String}

theorem readSign_special (negative : Bool) (kind : SpecialKind) (digits : Digits) :
    readSign (signText negative ++ kind.text ++ text digits) =
      (negative, kind.text ++ text digits) := by
  rw [List.append_assoc]
  apply readSign_signText
  cases kind with
  | infinity => exact fun unit hunit => by obtain rfl := Option.some.inj hunit; decide
  | nan => exact fun unit hunit => by obtain rfl := Option.some.inj hunit; decide
  | snan => exact fun unit hunit => by obtain rfl := Option.some.inj hunit; decide

theorem matchSpecial_infinity (negative : Bool) :
    matchSpecial (signText negative ++ SpecialKind.infinity.text ++ text []) =
      some (.infinity negative) := by
  rw [matchSpecial, readSign_special]
  rfl

theorem matchSpecial_nan (negative : Bool) {kind : SpecialKind} (hkind : kind ≠ .infinity)
    (digits : Digits) :
    matchSpecial (signText negative ++ kind.text ++ text digits) =
      some (.nan negative kind.text digits) := by
  rw [matchSpecial, readSign_special]
  cases kind with
  | infinity => exact absurd rfl hkind
  | nan =>
      have hword : readWord nanWord (SpecialKind.nan.text ++ text digits) =
          some (SpecialKind.nan.text, text digits) := rfl
      have hnone : readWord snanWord (SpecialKind.nan.text ++ text digits) = none := by
        rw [readWord, if_neg]
        exact fun h => absurd (List.cons.inj h).1 (by decide)
      dsimp only
      rw [if_neg, hword, hnone, Option.none_or]
      · dsimp only
        rw [readDigits_text_nil]
      · rintro (h | h)
        · exact absurd (List.cons.inj h).1 (by decide)
        · exact absurd (List.cons.inj h).1 (by decide)
  | snan =>
      have hword : readWord snanWord (SpecialKind.snan.text ++ text digits) =
          some (SpecialKind.snan.text, text digits) := rfl
      dsimp only
      rw [if_neg, hword, Option.some_or]
      · dsimp only
        rw [readDigits_text_nil]
      · rintro (h | h)
        · exact absurd (List.cons.inj h).1 (by decide)
        · exact absurd (List.cons.inj h).1 (by decide)

/-- What a value is parsed to: a number loses the zeros which can be left out. -/
def DecimalValue.normalized : DecimalValue → DecimalValue
  | .finite value => .finite { value with coefficient := value.coefficient.significant }
  | .special value => .special value

/-- The text of a special value is matched, and parsed to it. -/
theorem parseSpecial_text {special : SpecialDecimal}
    (h : (DecimalValue.special special).Valid format) :
    parseSpecial (DecimalValue.special special).text format path = .ok (some special) := by
  obtain ⟨negative, kind, diagnostic⟩ := special
  rw [DecimalValue.text, parseSpecial]
  dsimp only
  cases kind with
  | infinity =>
      obtain rfl : diagnostic = [] := h
      rw [matchSpecial_infinity]
  | nan =>
      obtain ⟨hlength, hstrip⟩ := h
      rw [matchSpecial_nan negative (by decide : SpecialKind.nan ≠ .infinity)]
      dsimp only at hlength hstrip ⊢
      rw [hstrip, require_of hlength]
      rfl
  | snan =>
      obtain ⟨hlength, hstrip⟩ := h
      rw [matchSpecial_nan negative (by decide : SpecialKind.snan ≠ .infinity)]
      dsimp only at hlength hstrip ⊢
      rw [hstrip, require_of hlength]
      rfl

end Special

section Texts
variable {format : DecimalFloatFormat} {path : String} {value : DecimalValue}

theorem valid_range {value : FiniteDecimal} (h : (DecimalValue.finite value).Valid format) :
    minimumExponent format ≤ value.exponent ∧ value.exponent ≤ maximumExponent format := by
  obtain ⟨-, hlow, hhigh⟩ := h
  rw [minimumExponent, maximumExponent]
  omega

theorem parseFinite_text {value : FiniteDecimal} (h : (DecimalValue.finite value).Valid format) :
    parseFinite format path (DecimalValue.finite value).text =
      .ok { value with coefficient := value.coefficient.significant } := by
  obtain ⟨hmin, hmax⟩ := valid_range h
  have hlength := Digits.length_significant_le (one_le_precision format) h.1
  obtain ⟨found, hfound, hnegative, hdigits, hexponent⟩ :=
    matchFinite_formatBody value.negative
      (Digits.normal_significant value.coefficient) value.exponent
  have hshorten : shortenCoefficient format path value.coefficient.significant value.exponent =
      .ok (value.coefficient.significant, value.exponent) := by
    rw [shortenCoefficient, if_neg]
    rintro ⟨-, hlong⟩
    omega
  have hfit : fitExponent format path value.coefficient.significant value.exponent =
      .ok (value.coefficient.significant, value.exponent) := by
    rw [fitExponent]
    split
    · rename_i hzero
      rw [hzero, max_eq_left hmin, min_eq_left hmax]
    · rw [if_neg (by omega), if_neg (by omega)]
  rw [DecimalValue.text, formatFinite, parseFinite, hfound]
  dsimp only
  rw [hdigits, hexponent, hshorten, ok_bind]
  dsimp only
  rw [hfit, ok_bind, hnegative]

theorem length_kind_text_le (kind : SpecialKind) : kind.text.length ≤ 8 := by
  cases kind with
  | infinity => exact le_rfl
  | nan => decide
  | snan => decide

theorem length_text_le (h : value.Valid format) : value.text.length ≤ maxDecimalFloatTextLength := by
  obtain ⟨hprecision, hbits, hbias⟩ := format.small
  rw [maxDecimalFloatTextLength]
  cases value with
  | finite value =>
      have hpow : 2 ^ format.exponentContinuationBits ≤ 2 ^ 12 :=
        Nat.pow_le_pow_right (by decide) hbits
      obtain ⟨hlength, hlow, hhigh⟩ := h
      have hpow' : (2 : Int) ^ format.exponentContinuationBits ≤ 4096 := by exact_mod_cast hpow
      have hbody := length_formatBody_le
        (Digits.length_significant_le (by decide : 0 < 34) (hlength.trans hprecision))
        (by omega : -6176 ≤ value.exponent) (by omega)
      have hsign := length_signText_le value.negative
      rw [DecimalValue.text, formatFinite, List.length_append]
      omega
  | special value =>
      have hdiagnostic : value.diagnostic.length ≤ 34 := by
        rw [DecimalValue.Valid] at h
        split at h
        · rw [h]
          exact Nat.zero_le _
        · omega
      have hsign := length_signText_le value.negative
      have hkind := length_kind_text_le value.kind
      rw [DecimalValue.text, List.length_append, List.length_append, length_text]
      omega

/-- The text of a value is parsed to the value. -/
theorem parseDecimal_text (h : value.Valid format) :
    parseDecimal format path value.text = .ok value.normalized := by
  rw [parseDecimal, require_of (length_text_le h), ok_bind]
  cases value with
  | special value =>
      rw [parseSpecial_text h]
      rfl
  | finite value =>
      obtain ⟨digit, rest, hbody⟩ :=
        head_formatBody (Digits.normal_significant value.coefficient).ne_nil value.exponent
      have hnone : parseSpecial (DecimalValue.finite value).text format path = .ok none := by
        rw [DecimalValue.text, formatFinite, hbody, parseSpecial, matchSpecial_digit]
      rw [hnone, ok_bind]
      dsimp only
      rw [parseFinite_text h]
      rfl

/-- The text of a value denotes the value. -/
theorem meaning_text (h : value.Valid format) :
    meaningOf value.text = some value.meaning := by
  cases value with
  | special value =>
      obtain ⟨negative, kind, diagnostic⟩ := value
      rw [DecimalValue.text, meaningOf]
      dsimp only
      cases kind with
      | infinity =>
          obtain rfl : diagnostic = [] := h
          rw [matchSpecial_infinity]
          rfl
      | nan =>
          rw [matchSpecial_nan negative (by decide : SpecialKind.nan ≠ .infinity)]
          rfl
      | snan =>
          rw [matchSpecial_nan negative (by decide : SpecialKind.snan ≠ .infinity)]
          rfl
  | finite value =>
      obtain ⟨digit, rest, hbody⟩ :=
        head_formatBody (Digits.normal_significant value.coefficient).ne_nil value.exponent
      obtain ⟨found, hfound, hnegative, hdigits, hexponent⟩ :=
        matchFinite_formatBody value.negative
          (Digits.normal_significant value.coefficient) value.exponent
      have hnumber := congrArg Digits.number hdigits
      rw [Digits.number_significant, Digits.number_significant] at hnumber
      have hnone : matchSpecial (DecimalValue.finite value).text = none := by
        rw [DecimalValue.text, formatFinite, hbody, matchSpecial_digit]
      rw [meaningOf, hnone]
      dsimp only
      rw [DecimalValue.text, formatFinite, hfound, Option.map_some, hnegative, scaled, hnumber,
        hexponent]
      rfl

end Texts

section Meaning
variable {format : DecimalFloatFormat} {path : String} {s : JsString}

/-- The long s stands at the start of a text, behind its sign. -/
def LongS (s : JsString) : Prop := (readSign s).2.head? = some 0x17f

instance (s : JsString) : Decidable (LongS s) := inferInstanceAs (Decidable (_ = _))

theorem not_longS_of_matchFinite {found : FiniteMatch} (h : matchFinite s = some found) :
    ¬LongS s := by
  intro hlong
  obtain ⟨tail, htail⟩ := List.head?_eq_some_iff.mp hlong
  have hread : readSign s = ((readSign s).1, 0x17f :: tail) := by rw [← htail]
  rw [matchFinite, hread] at h
  exact absurd h (by simp [readDigits, digitOf?, readFraction])

theorem foldCase_longS : foldCase 0x17f = 0x73 := by decide

theorem toLowerCase_of_foldCase {unit lower : UInt16} (h : foldCase unit = lower)
    (hne : unit ≠ 0x17f) : toLowerCase unit = lower := by
  rw [← h, foldCase, toLowerCase]
  split
  · rfl
  · rfl

/-- Four letters which a pattern takes for `snan` are `snan` in lower case unless the first one is
the long s. -/
theorem toLowerCase_snan {word : JsString} (h : word.map foldCase = snanWord) :
    word.map toLowerCase = snanWord ↔ word.head? ≠ some 0x17f := by
  obtain ⟨a, b, c, d, rfl⟩ := List.length_eq_four.mp
    (by rw [← List.length_map foldCase, h]; rfl : word.length = 4)
  simp only [List.map_cons, List.map_nil, snanWord, List.cons.injEq, and_true] at h ⊢
  obtain ⟨ha, hb, hc, hd⟩ := h
  have hlong {unit : UInt16} (hu : foldCase unit ≠ 0x73) : unit ≠ 0x17f := by
    rintro rfl
    exact hu foldCase_longS
  rw [toLowerCase_of_foldCase hb (hlong (by rw [hb]; decide)),
    toLowerCase_of_foldCase hc (hlong (by rw [hc]; decide)),
    toLowerCase_of_foldCase hd (hlong (by rw [hd]; decide))]
  constructor
  · rintro ⟨hlower, -⟩ hhead
    obtain rfl : a = 0x17f := Option.some.inj hhead
    exact absurd hlower (by decide)
  · intro hhead
    exact ⟨toLowerCase_of_foldCase ha fun he => hhead (congrArg some he), rfl, rfl, rfl⟩

theorem readWord_eq_some {word tail lower rest : JsString}
    (h : readWord lower rest = some (word, tail)) :
    word.map foldCase = lower ∧ word ++ tail = rest := by
  rw [readWord] at h
  split at h
  · rename_i hword
    obtain ⟨rfl, rfl⟩ := Prod.mk.inj (Option.some.inj h)
    exact ⟨hword, List.take_append_drop _ _⟩
  · cases h

/-- The kind of a NaN is that of its word unless the word starts with the long s. -/
theorem signaling_iff {word tail rest : JsString}
    (h : (readWord snanWord rest).or (readWord nanWord rest) = some (word, tail)) :
    decide (word.map toLowerCase = snanWord) = decide (word.length = snanWord.length) ↔
      ¬rest.head? = some 0x17f := by
  cases hsnan : readWord snanWord rest with
  | some found =>
      rw [hsnan, Option.some_or, Option.some.injEq] at h
      subst h
      obtain ⟨hword, rfl⟩ := readWord_eq_some hsnan
      have hlength : word.length = snanWord.length := by rw [← List.length_map foldCase, hword]
      have hhead : (word ++ tail).head? = word.head? := by
        apply List.head?_append_of_ne_nil
        rintro rfl
        exact absurd hlength (by decide)
      rw [decide_eq_true hlength, decide_eq_true_iff, toLowerCase_snan hword, hhead]
  | none =>
      rw [hsnan, Option.none_or] at h
      obtain ⟨hword, rfl⟩ := readWord_eq_some h
      have hlength : word.length = nanWord.length := by rw [← List.length_map foldCase, hword]
      have hne : ¬word.length = snanWord.length := by
        rw [hlength]
        decide
      have hlower : ¬word.map toLowerCase = snanWord := by
        intro hlower
        rw [← hlower, List.length_map] at hne
        exact hne rfl
      refine iff_of_true (by rw [decide_eq_false hne, decide_eq_false hlower]) ?_
      intro hlong
      cases word with
      | nil => exact absurd hlength (by decide)
      | cons unit units =>
          obtain rfl : unit = 0x17f := Option.some.inj hlong
          exact absurd (List.cons.inj hword).1 (by decide)

/-- The value which a text is parsed to is what the text denotes, unless the long s is read as a
letter of `snan` and not as the letter in front. -/
theorem meaning_parseSpecial {special : SpecialDecimal}
    (h : parseSpecial s format path = .ok (some special)) :
    (DecimalValue.special special).Valid format ∧ ∃ meaning, meaningOf s = some meaning ∧
      ((DecimalValue.special special).meaning = meaning ↔ ¬LongS s) := by
  obtain ⟨found, hfound, hvalid, hmeaning⟩ := parseSpecial_eq_ok h
  refine ⟨hvalid, ?_⟩
  rw [hmeaning, meaningOf, hfound, LongS]
  rw [matchSpecial] at hfound
  generalize readSign s = read at hfound ⊢
  obtain ⟨negative, rest⟩ := read
  dsimp only at hfound ⊢
  split at hfound
  · rename_i hword
    rw [← Option.some.inj hfound]
    refine ⟨_, rfl, iff_of_true rfl ?_⟩
    intro hlong
    obtain ⟨tail, rfl⟩ := List.head?_eq_some_iff.mp hlong
    obtain hword | hword := hword
    · exact absurd (List.cons.inj hword).1 (by decide)
    · exact absurd (List.cons.inj hword).1 (by decide)
  · split at hfound
    · cases hfound
    · rename_i word tail hread
      split at hfound
      · rename_i digits _
        rw [← Option.some.inj hfound]
        refine ⟨_, rfl, ?_⟩
        rw [Meaning.nan.injEq, eq_self_iff_true, eq_self_iff_true, true_and, and_true]
        exact signaling_iff hread
      · cases hfound

theorem matchSpecial_of_parseSpecial (h : parseSpecial s format path = .ok none) :
    matchSpecial s = none := by
  cases hfound : matchSpecial s with
  | none => rfl
  | some found =>
      rw [parseSpecial, hfound] at h
      cases found with
      | infinity negative => cases h
      | nan negative word digits =>
          obtain ⟨_, -, h⟩ := bind_eq_ok.mp h
          cases h

theorem meaning_parseDecimal {value : DecimalValue}
    (h : parseDecimal format path s = .ok value) :
    value.Valid format ∧ ∃ meaning, meaningOf s = some meaning ∧
      (value.meaning = meaning ↔ ¬LongS s) := by
  obtain ⟨_, -, h⟩ := bind_eq_ok.mp h
  obtain ⟨special, hspecial, h⟩ := bind_eq_ok.mp h
  cases special with
  | some special =>
      rw [← Except.ok.inj h]
      exact meaning_parseSpecial hspecial
  | none =>
      obtain ⟨finite, hfinite, h⟩ := bind_eq_ok.mp h
      rw [← Except.ok.inj h]
      obtain ⟨found, hfound, hvalid, -, hmeaning⟩ := parseFinite_eq_ok hfinite
      refine ⟨hvalid, _, ?_, iff_of_true hmeaning (not_longS_of_matchFinite hfound)⟩
      rw [meaningOf, matchSpecial_of_parseSpecial hspecial, hfound]
      rfl

end Meaning

section RoundTrip
variable {format : DecimalFloatFormat} {path : String}

theorem text_padded (value : DecimalValue) (h : value.Valid format) :
    (value.padded format).text = value.text := by
  cases value with
  | special value => rfl
  | finite value =>
      rw [DecimalValue.padded, DecimalValue.text, DecimalValue.text, formatFinite, formatFinite,
        Digits.significant, Digits.stripZeros_pad, ← Digits.significant]

theorem encodeValue_normalized {value : DecimalValue} (h : value.Valid format) :
    encodeValue format value.normalized = encodeValue format value := by
  cases value with
  | special value => rfl
  | finite value =>
      rw [DecimalValue.normalized, encodeValue, encodeValue, encodeFinite, encodeFinite,
        Digits.pad_significant (one_le_precision format) h.1]

/-- The text of a value is encoded as the value, which is decoded to the text. -/
theorem text_round_trip (path : String) {value : DecimalValue} (h : value.Valid format) :
    encodeDecimalFloat format path value.text = .ok (encodeValue format value) ∧
      decodeDecimalFloat format path (encodeValue format value) = .ok value.text ∧
      Canonical format (encodeValue format value) := by
  obtain ⟨hdecode, hcanonical⟩ := decodeValue_encodeValue h
  refine ⟨?_, ?_, hcanonical⟩
  · rw [encodeDecimalFloat, parseDecimal_text h, ok_bind, encodeValue_normalized h]
  · rw [decodeDecimalFloat, require_of hcanonical.1, ok_bind, hdecode, text_padded value h]

/-- The bytes of a text are decoded to a text which is encoded in the same bytes, and which has
the meaning of the first one. -/
def MeaningKept (format : DecimalFloatFormat) (path : String) (s : JsString) (bytes : Bytes) :
    Prop :=
  ∃ text, decodeDecimalFloat format path bytes = .ok text ∧
    encodeDecimalFloat format path text = .ok bytes ∧
    ∃ meaning, meaningOf s = some meaning ∧ meaningOf text = some meaning

/-- Which texts keep their meaning. -/
theorem meaningKept_iff {s : JsString} {bytes : Bytes}
    (h : encodeDecimalFloat format path s = .ok bytes) :
    MeaningKept format path s bytes ↔ ¬LongS s := by
  obtain ⟨value, hvalue, h⟩ := bind_eq_ok.mp h
  obtain rfl := Except.ok.inj h
  obtain ⟨hvalid, meaning, hmeaning, hiff⟩ := meaning_parseDecimal hvalue
  obtain ⟨hencode, hdecode, -⟩ := text_round_trip path hvalid
  have htext := meaning_text hvalid
  rw [← hiff]
  constructor
  · rintro ⟨text, hdecode', -, meaning', hmeaning', htext'⟩
    rw [hdecode, Except.ok.injEq] at hdecode'
    rw [← hdecode', htext] at htext'
    rw [hmeaning] at hmeaning'
    rw [Option.some.inj hmeaning', Option.some.inj htext']
  · intro he
    refine ⟨value.text, hdecode, hencode, meaning, hmeaning, ?_⟩
    rw [htext, he]

/-- Texts keep their meaning unless they are spelled with the long s, and every byte string is
decoded to a text whose encoding is canonical and is decoded to the same text. -/
theorem decimal_round_trip_iff (format : DecimalFloatFormat) (path : String) :
    (∀ s bytes, encodeDecimalFloat format path s = .ok bytes →
      (MeaningKept format path s bytes ↔ ¬LongS s)) ∧
    ∀ bytes : Bytes, bytes.length = format.byteLength →
      ∃ text canonical, decodeDecimalFloat format path bytes = .ok text ∧
        encodeDecimalFloat format path text = .ok canonical ∧ Canonical format canonical ∧
        decodeDecimalFloat format path canonical = .ok text := by
  refine ⟨fun _ _ h => meaningKept_iff h, fun bytes hlength => ?_⟩
  have hvalid := valid_decodeValue format bytes
  obtain ⟨hencode, hdecode, hcanonical⟩ := text_round_trip path hvalid
  refine ⟨(decodeValue format bytes).text, _, ?_, hencode, hcanonical, hdecode⟩
  rw [decodeDecimalFloat, require_of hlength, ok_bind]

/-- `-1.50`, and a NaN with bits which are ignored. -/
theorem decimal_round_trip_samples :
    (∃ bytes, encodeDecimalFloat16 [0x2d, 0x31, 0x2e, 0x35, 0x30] = .ok bytes ∧
      MeaningKept DECF16 "DECF16" [0x2d, 0x31, 0x2e, 0x35, 0x30] bytes) ∧
    ∃ text canonical, decodeDecimalFloat16 [1, 0, 0, 0, 0, 0, 0xff, 0xff] = .ok text ∧
      encodeDecimalFloat16 text = .ok canonical ∧ Canonical DECF16 canonical ∧
      decodeDecimalFloat16 canonical = .ok text := by
  have hencode : encodeDecimalFloat16 [0x2d, 0x31, 0x2e, 0x35, 0x30] =
      .ok [0xd0, 0, 0, 0, 0, 0, 0x30, 0xa2] := by decide +kernel
  constructor
  · exact ⟨_, hencode, ((decimal_round_trip_iff DECF16 "DECF16").1 _ _ hencode).mpr (by decide)⟩
  · exact (decimal_round_trip_iff DECF16 "DECF16").2 _ rfl

/-- `nan` with a long s in front is taken for `snan`, and written as a quiet NaN. -/
theorem not_meaning_kept :
    ¬∀ format path s bytes, encodeDecimalFloat format path s = .ok bytes →
      MeaningKept format path s bytes := by
  intro h
  have hencode : encodeDecimalFloat DECF16 "DECF16" [0x17f, 0x6e, 0x61, 0x6e] =
      .ok [0, 0, 0, 0, 0, 0, 0, 0x7c] := by decide +kernel
  exact (meaningKept_iff hencode).mp (h _ _ _ _ hencode) (by decide)

end RoundTrip
end OpenRfc.DecimalFloat
