import OpenRfc.DecimalFloat.Representable
import OpenRfc.Values.PackedDecimal

/-!
What packed decimals denote. A text is packed without rounding, and refused if its number does not
fit; a zero may be refused for the exponent with which it is written.
-/

namespace OpenRfc.Values
open Fallible Numeral
open DecimalFloat (FiniteMatch matchFinite mul_pow_eq_iff_of_le scaled_eq_zero_iff)

/-- The number which a text denotes. -/
def rational (found : FiniteMatch) : ℚ :=
  if found.negative then -found.magnitude else found.magnitude

section Reading
variable {nibbles : List (Fin 16)} {digits : Digits}

theorem length_splitNibbles (bytes : Bytes) : (splitNibbles bytes).length = 2 * bytes.length := by
  induction bytes with
  | nil => rfl
  | cons byte bytes ih =>
      rw [splitNibbles, List.flatMap_cons, List.length_append, ← splitNibbles, ih, List.length_cons]
      simp only [List.length_cons, List.length_nil]
      omega

theorem length_decimalDigits (h : decimalDigits? nibbles = some digits) :
    digits.length = nibbles.length := by
  induction nibbles generalizing digits with
  | nil =>
      obtain rfl := Option.some.inj h
      rfl
  | cons nibble nibbles ih =>
      rw [decimalDigits?, List.mapM_cons, Option.bind_eq_bind, Option.bind_eq_some_iff] at h
      obtain ⟨digit, -, h⟩ := h
      rw [Option.bind_eq_bind, Option.bind_eq_some_iff] at h
      obtain ⟨rest, hrest, h⟩ := h
      rw [← Option.some.inj h, List.length_cons, List.length_cons, ih hrest]

/-- What is read has as many digits as the field, whatever its sign is. -/
theorem decodePackedDecimal_eq_ok {path : String} {bytes : Bytes} {decimals : Nat} {s : JsString}
    (h : decodePackedDecimal path bytes decimals = .ok s) :
    ∃ capacity negative digits, geometry path bytes.length decimals = .ok capacity ∧
      digits.length = capacity ∧ s = packedText negative digits decimals := by
  obtain ⟨capacity, hgeometry, h⟩ := bind_eq_ok.mp h
  obtain ⟨-, -, hcapacity, -, -⟩ := geometry_eq_ok hgeometry
  dsimp only at h
  cases hdigits : decimalDigits? ((splitNibbles bytes).take capacity) with
  | none =>
      rw [hdigits] at h
      exact absurd h nofun
  | some digits =>
      rw [hdigits] at h
      obtain ⟨negative, -, h⟩ := bind_eq_ok.mp h
      have hlength := length_decimalDigits hdigits
      rw [List.length_take, length_splitNibbles] at hlength
      exact ⟨capacity, negative, digits, hgeometry, by omega, (Except.ok.inj h).symm⟩

end Reading

section Exactness
variable {host : Host} {path : String} {value : RfcValue} {byteLength decimals capacity : Nat}
  {digits : Digits} {negative : Bool}

/-- The groups of the text of packed digits. -/
def packedMatch (negative : Bool) (digits : Digits) (decimals : Nat) : FiniteMatch :=
  ⟨negative && digits.stripZeros ≠ [], Digits.significant (digits.take (digits.length - decimals)),
    digits.drop (digits.length - decimals), 0⟩

theorem magnitude_packedMatch (hdecimals : decimals ≤ digits.length) :
    (packedMatch negative digits decimals).magnitude * 10 ^ decimals = digits.number := by
  have hfraction : (digits.drop (digits.length - decimals)).length = decimals := by
    rw [List.length_drop]
    omega
  have hnumber : (Digits.significant (digits.take (digits.length - decimals)) ++
      digits.drop (digits.length - decimals)).number = digits.number := by
    rw [Digits.number_append, Digits.number_significant, ← Digits.number_append,
      List.take_append_drop]
  have hten : (10 : ℚ) ≠ 0 := by norm_num
  rw [FiniteMatch.magnitude, packedMatch, DecimalFloat.scaled, hnumber, hfraction, zero_sub,
    zpow_neg, zpow_natCast, mul_assoc, inv_mul_cancel₀ (pow_ne_zero decimals hten), mul_one]

/-- What is packed is read as a text of the same number, with all the fractional digits of the
field and no sign on zero, and what is read can be packed again. -/
theorem packedDecimal_exact (host : Host) (path : String) (decimals : Nat) :
    (∀ value byteLength bytes,
      encodePackedDecimal host path value byteLength decimals = .ok bytes →
      ∃ text found s found', decimalText host value path = .ok text ∧
        matchFinite text = some found ∧ decodePackedDecimal path bytes decimals = .ok s ∧
        matchFinite s = some found' ∧ rational found' = rational found ∧
        found'.fraction.length = decimals ∧ found'.exponent = 0 ∧
        (found'.negative = true → rational found' ≠ 0)) ∧
    ∀ bytes s, decodePackedDecimal path bytes decimals = .ok s →
      ∃ bytes', encodePackedDecimal host path (.text s) bytes.length decimals = .ok bytes' ∧
        decodePackedDecimal path bytes' decimals = .ok s := by
  constructor
  · intro value byteLength bytes h
    obtain ⟨capacity, text, scaled, hgeometry, htext, hlength, hscaled, -, hdecode⟩ :=
      decode_encodePackedDecimal h
    obtain ⟨hmin, hmax, hcapacity, hdecimals, hfraction⟩ := geometry_eq_ok hgeometry
    obtain ⟨found, hfound, -, hfits, hnegative, hnumber⟩ :=
      scaledDigits_eq_ok (by omega) (by omega) hdecimals hlength hscaled
    have hpad := Digits.length_pad scaled.1 hfits
    have hten : (10 : ℚ) ^ decimals ≠ 0 := pow_ne_zero decimals (by norm_num)
    have hmagnitude : (packedMatch scaled.2 (scaled.1.pad capacity) decimals).magnitude =
        found.magnitude := by
      apply mul_right_cancel₀ hten
      rw [magnitude_packedMatch (hfraction.trans_eq hpad.symm), Digits.number_pad, hnumber]
      rfl
    have hzero : found.magnitude = 0 ↔ scaled.1.number = 0 := by
      rw [← mul_eq_zero_iff_right hten, FiniteMatch.magnitude, ← hnumber]
      exact_mod_cast Iff.rfl
    have hsign : (packedMatch scaled.2 (scaled.1.pad capacity) decimals).negative =
        (found.negative && found.magnitude ≠ 0) := by
      simp [packedMatch, hnegative, stripZeros_eq_nil_iff, Digits.number_pad, hzero]
    refine ⟨text, found, _, _, htext, hfound, hdecode, matchFinite_packedText scaled.2, ?_, ?_, rfl,
      ?_⟩
    · change rational (packedMatch scaled.2 (scaled.1.pad capacity) decimals) = _
      rw [rational, rational, hsign, hmagnitude]
      by_cases hvalue : found.magnitude = 0
      · simp [hvalue]
      · simp [hvalue]
    · rw [List.length_drop, hpad]
      omega
    · intro hminus
      change rational (packedMatch scaled.2 (scaled.1.pad capacity) decimals) ≠ 0
      change (packedMatch scaled.2 (scaled.1.pad capacity) decimals).negative = true at hminus
      rw [rational, if_pos hminus, hmagnitude, Ne, neg_eq_zero]
      rw [hsign] at hminus
      simpa using (Bool.and_eq_true_iff.mp hminus).2
  · intro bytes s h
    obtain ⟨capacity, negative, digits, hgeometry, hlength, rfl⟩ := decodePackedDecimal_eq_ok h
    exact encode_packedText negative host path hgeometry hlength

/-- `-1.5` is read as `-1.50`, and what has no sign nibble of its own is packed again. -/
theorem packedDecimal_exact_samples :
    (∃ text found s found', decimalText ⟨fun _ => [], fun _ => none⟩
          (.text (JsString.literal "-1.5")) "AMOUNT" = .ok text ∧
        matchFinite text = some found ∧
        decodePackedDecimal "AMOUNT" [0x15, 0x0d] 2 = .ok s ∧ matchFinite s = some found' ∧
        rational found' = rational found ∧ found'.fraction.length = 2 ∧ found'.exponent = 0 ∧
        (found'.negative = true → rational found' ≠ 0)) ∧
    ∃ bytes', encodePackedDecimal ⟨fun _ => [], fun _ => none⟩ "AMOUNT"
          (.text (JsString.literal "1.50")) 2 2 = .ok bytes' ∧
        decodePackedDecimal "AMOUNT" bytes' 2 = .ok (JsString.literal "1.50") := by
  obtain ⟨hencode, hdecode⟩ := packedDecimal_exact ⟨fun _ => [], fun _ => none⟩ "AMOUNT" 2
  have hbytes : encodePackedDecimal ⟨fun _ => [], fun _ => none⟩ "AMOUNT"
      (.text (JsString.literal "-1.5")) 2 2 = .ok [0x15, 0x0d] := by decide +kernel
  have htext : decodePackedDecimal "AMOUNT" [0x15, 0x0e] 2 = .ok (JsString.literal "1.50") := by
    decide +kernel
  exact ⟨hencode _ _ _ hbytes, hdecode _ _ htext⟩

end Exactness

section Acceptance
variable {host : Host} {path : String} {text : JsString} {found : FiniteMatch}
  {byteLength decimals capacity : Nat} {coefficient : Digits}

/-- The number of places by which the point of a decimal is moved, as a sum of numbers. -/
def shiftOf (found : FiniteMatch) (decimals : Nat) : Int :=
  addNumbers (addNumbers found.exponent decimals) (-found.fraction.length)

/-- A zero whose exponent is a safe integer and moves the point beyond the digits of the field. -/
def ZeroBeyondCapacity (found : FiniteMatch) (decimals capacity : Nat) : Prop :=
  found.magnitude = 0 ∧ isSafeInteger found.exponent ∧ isSafeInteger (shiftOf found decimals) ∧
    capacity < shiftOf found decimals

/-- A number of the field: an integer once the point has been moved, within the capacity. -/
def FitsCapacity (found : FiniteMatch) (decimals capacity : Nat) : Prop :=
  ∃ n : ℤ, rational found * 10 ^ decimals = n ∧ |n| < 10 ^ capacity

theorem rational_eq_zero (h : found.magnitude = 0) : rational found = 0 := by
  rw [rational, h, neg_zero, ite_self]

theorem fitsCapacity_iff : FitsCapacity found decimals capacity ↔
    ∃ c : Nat, found.magnitude * 10 ^ decimals = c ∧ c < 10 ^ capacity := by
  have hsign : rational found = found.magnitude ∨ rational found = -found.magnitude := by
    rw [rational]
    split
    · exact .inr rfl
    · exact .inl rfl
  have hpos : 0 ≤ found.magnitude * 10 ^ decimals := by
    have hten : (0 : ℚ) ≤ 10 := by norm_num
    exact mul_nonneg (mul_nonneg (Nat.cast_nonneg _) (zpow_nonneg hten _)) (pow_nonneg hten _)
  constructor
  · rintro ⟨n, hvalue, hbound⟩
    refine ⟨n.natAbs, ?_, by zify; exact hbound⟩
    have habs : |rational found * 10 ^ decimals| = found.magnitude * 10 ^ decimals := by
      rw [← abs_of_nonneg hpos]
      obtain hsame | hsame := hsign
      · rw [hsame]
      · rw [hsame, neg_mul, abs_neg]
    rw [← habs, hvalue]
    rw [Nat.cast_natAbs, Int.cast_abs]
  · rintro ⟨c, hvalue, hbound⟩
    obtain hsame | hsame := hsign
    · exact ⟨c, by rw [hsame, hvalue]; rfl, by rw [Nat.abs_cast]; exact_mod_cast hbound⟩
    · refine ⟨-c, by rw [hsame, neg_mul, hvalue]; push_cast; rfl, ?_⟩
      rw [abs_neg, Nat.abs_cast]
      exact_mod_cast hbound

/-- What the shift leaves is short enough if its number is. -/
theorem length_significant_of_lt (hpos : 0 < capacity) (h : coefficient.number < 10 ^ capacity) :
    coefficient.significant.length ≤ capacity := by
  obtain hzero | hleading := Digits.normal_significant coefficient
  · rw [hzero]
    exact hpos
  · rw [← Digits.number_significant] at h
    exact (hleading.number_lt_pow_iff capacity).mp h

/-- Zeros may be cut off, and may be moved by no more than the capacity. -/
theorem shiftCoefficient_zero (path : String) (decimals : Nat) {shift : Int}
    (hzero : coefficient.number = 0) (h : shift ≤ capacity) :
    ∃ digits, shiftCoefficient path decimals capacity coefficient shift = .ok digits := by
  have hstrip := stripZeros_eq_nil_iff.mpr hzero
  rw [shiftCoefficient]
  split
  · rw [hstrip, List.length_nil, require_of (by omega), ok_bind]
    exact ⟨_, rfl⟩
  · have hsplit := Digits.number_append (coefficient.take (coefficient.length - (-shift).toNat))
      (coefficient.drop (coefficient.length - (-shift).toNat))
    rw [List.take_append_drop, hzero] at hsplit
    have hdrop := stripZeros_eq_nil_iff.mpr (Nat.eq_zero_of_add_eq_zero_left hsplit.symm)
    dsimp only
    rw [require_of hdrop, ok_bind]
    exact ⟨_, rfl⟩

/-- Digits other than zero are moved if their number remains an integer of the field. -/
theorem shiftCoefficient_ok (path : String) (decimals : Nat) {shift : Int} {c : Nat}
    (hvalue : DecimalFloat.scaled coefficient shift = c) (hbound : c < 10 ^ capacity)
    (hne : coefficient.number ≠ 0) :
    ∃ digits, shiftCoefficient path decimals capacity coefficient shift = .ok digits := by
  have hvalue : (coefficient.number * 10 ^ shift : ℚ) = c * 10 ^ (0 : Int) := by
    rw [zpow_zero, mul_one]
    exact hvalue
  rw [shiftCoefficient]
  split
  · rename_i hshift
    have hnumber := (mul_pow_eq_iff_of_le hshift).mp hvalue.symm
    have hleading := Digits.leading_of_stripZeros (mt stripZeros_eq_nil_iff.mp hne)
    have hmoved := hleading.append (List.replicate shift.toNat 0)
    have hlength := hmoved.number_lt_pow_iff capacity
    rw [Digits.number_append, Digits.number_zeros, Digits.number_stripZeros, List.length_replicate,
      Nat.add_zero, List.length_append, List.length_replicate] at hlength
    rw [sub_zero] at hnumber
    have hroom := hlength.mp (hnumber ▸ hbound)
    rw [require_of (by omega), ok_bind]
    exact ⟨_, rfl⟩
  · rename_i hshift
    have hnumber := (mul_pow_eq_iff_of_le (by omega : shift ≤ 0)).mp hvalue
    rw [zero_sub] at hnumber
    have hlarge : 10 ^ (-shift).toNat ≤ coefficient.number :=
      Nat.le_of_dvd (Nat.pos_of_ne_zero hne) ⟨c, by rw [hnumber, Nat.mul_comm]⟩
    have hcount := (Nat.pow_lt_pow_iff_right (by decide : 1 < 10)).mp
      (hlarge.trans_lt (Digits.number_lt coefficient))
    have hsplit := Digits.number_append (coefficient.take (coefficient.length - (-shift).toNat))
      (coefficient.drop (coefficient.length - (-shift).toNat))
    have hlength : (coefficient.drop (coefficient.length - (-shift).toNat)).length =
        (-shift).toNat := by
      rw [List.length_drop]
      omega
    have hlast := Digits.number_lt (coefficient.drop (coefficient.length - (-shift).toNat))
    rw [hlength] at hlast
    rw [List.take_append_drop, hlength, hnumber] at hsplit
    have hdrop : Digits.number (coefficient.drop (coefficient.length - (-shift).toNat)) = 0 := by
      have hmod := congrArg (· % 10 ^ (-shift).toNat) hsplit
      rw [Nat.mul_mod_left, Nat.mul_add_mod_self_right, Nat.mod_eq_of_lt hlast] at hmod
      exact hmod.symm
    dsimp only
    rw [require_of (stripZeros_eq_nil_iff.mpr hdrop), ok_bind]
    exact ⟨_, rfl⟩

/-- The shift of a number of the field is small, and no sum on the way to it is rounded. -/
theorem shiftOf_exact (hcapacity : capacity ≤ 31) (hdecimals : decimals ≤ 14)
    (hlength : (found.integer ++ found.fraction).length ≤ maxPackedDecimalTextLength)
    (hne : (found.integer ++ found.fraction).number ≠ 0) {c : Nat}
    (hvalue : DecimalFloat.scaled (found.integer ++ found.fraction)
      (found.exponent + decimals - found.fraction.length) = c) (hbound : c < 10 ^ capacity) :
    isSafeInteger found.exponent ∧ isSafeInteger (shiftOf found decimals) ∧
      shiftOf found decimals = found.exponent + decimals - found.fraction.length := by
  have hfraction : found.fraction.length ≤ maxPackedDecimalTextLength := by
    rw [List.length_append] at hlength
    omega
  have hvalue : (Digits.number (found.integer ++ found.fraction) *
      10 ^ (found.exponent + decimals - found.fraction.length) : ℚ) = c * 10 ^ (0 : Int) := by
    rw [zpow_zero, mul_one]
    exact hvalue
  have hsmall : found.exponent + decimals - found.fraction.length < 31 ∧
      -(maxPackedDecimalTextLength : Int) < found.exponent + decimals - found.fraction.length := by
    obtain hshift | hshift := le_total 0 (found.exponent + decimals - found.fraction.length)
    · have hnumber := (mul_pow_eq_iff_of_le hshift).mp hvalue.symm
      rw [sub_zero] at hnumber
      have hle := Nat.le_mul_of_pos_left
        (10 ^ (found.exponent + decimals - found.fraction.length).toNat) (Nat.pos_of_ne_zero hne)
      have hpow := (Nat.pow_lt_pow_iff_right (by decide : 1 < 10)).mp
        ((hnumber ▸ hle).trans_lt hbound)
      rw [maxPackedDecimalTextLength]
      omega
    · have hnumber := (mul_pow_eq_iff_of_le hshift).mp hvalue
      rw [zero_sub] at hnumber
      have hle := Nat.le_of_dvd (Nat.pos_of_ne_zero hne) ⟨c, hnumber.trans (Nat.mul_comm _ _)⟩
      have hpow := (Nat.pow_lt_pow_iff_right (by decide : 1 < 10)).mp
        (hle.trans_lt (Digits.number_lt _))
      omega
  rw [maxPackedDecimalTextLength] at hsmall hfraction
  simp only [isSafeInteger, shiftOf, addNumbers, Double.maxSafeInteger]
  omega

theorem scaled_shift (found : FiniteMatch) (decimals : Nat) :
    DecimalFloat.scaled (found.integer ++ found.fraction)
      (found.exponent + decimals - found.fraction.length) = found.magnitude * 10 ^ decimals := by
  have hten : (10 : ℚ) ≠ 0 := by norm_num
  rw [FiniteMatch.magnitude, DecimalFloat.scaled, DecimalFloat.scaled, mul_assoc, ← zpow_natCast,
    ← zpow_add₀ hten]
  congr 2
  omega

/-- The digits of a text are scaled exactly if its number fits and is no zero beyond the capacity. -/
theorem scaledDigits_isOk_iff (path : String) (hpos : 0 < capacity) (hcapacity : capacity ≤ 31)
    (hdecimals : decimals ≤ 14) (hlength : text.length ≤ maxPackedDecimalTextLength)
    (hfound : matchFinite text = some found) :
    (∃ scaled, scaledDigits path decimals capacity text = .ok scaled) ↔
      FitsCapacity found decimals capacity ∧ ¬ZeroBeyondCapacity found decimals capacity := by
  have hzero : found.magnitude = 0 ↔ Digits.number (found.integer ++ found.fraction) = 0 :=
    scaled_eq_zero_iff
  constructor
  · rintro ⟨⟨digits, negative⟩, h⟩
    obtain ⟨found', hfound', -, hfits, -, hnumber⟩ :=
      scaledDigits_eq_ok hpos hcapacity hdecimals hlength h
    rw [hfound] at hfound'
    obtain rfl := Option.some.inj hfound'
    refine ⟨fitsCapacity_iff.mpr ⟨digits.number, hnumber.symm, ?_⟩, fun hbeyond => ?_⟩
    · exact (Digits.number_lt digits).trans_le (Nat.pow_le_pow_right (by decide) hfits)
    · obtain ⟨hmagnitude, hexponent, hshift, hlarge⟩ := hbeyond
      rw [shiftOf] at hshift hlarge
      rw [scaledDigits, hfound] at h
      dsimp only at h
      rw [if_neg (not_not.mpr hexponent), if_neg (not_not.mpr hshift), shiftCoefficient,
        if_pos (by omega), stripZeros_eq_nil_iff.mpr (hzero.mp hmagnitude), require,
        if_neg (by rw [List.length_nil]; omega)] at h
      cases h
  · rintro ⟨hfits, hbeyond⟩
    obtain ⟨c, hvalue, hbound⟩ := fitsCapacity_iff.mp hfits
    rw [← scaled_shift] at hvalue
    rw [scaledDigits, hfound]
    dsimp only
    by_cases hcoefficient : Digits.number (found.integer ++ found.fraction) = 0
    · have hstrip := stripZeros_eq_nil_iff.mpr hcoefficient
      by_cases hexponent : isSafeInteger found.exponent
      · by_cases hshift : isSafeInteger (shiftOf found decimals)
        · have hsmall : shiftOf found decimals ≤ capacity :=
            not_lt.mp fun h => hbeyond ⟨hzero.mpr hcoefficient, hexponent, hshift, h⟩
          obtain ⟨digits, hdigits⟩ := shiftCoefficient_zero path decimals hcoefficient hsmall
          have hnumber := (shiftCoefficient_eq_ok hdigits).1
          rw [scaled_eq_zero_iff.mpr hcoefficient] at hnumber
          have hdigitsZero : digits.number = 0 := by exact_mod_cast hnumber
          have hshort : digits.significant.length ≤ capacity := length_significant_of_lt hpos
            (hdigitsZero ▸ Nat.pow_pos (by decide))
          rw [shiftOf] at hshift hdigits
          rw [if_neg (not_not.mpr hexponent), if_neg (not_not.mpr hshift), hdigits, ok_bind,
            require_of hshort, ok_bind]
          exact ⟨_, rfl⟩
        · rw [shiftOf] at hshift
          rw [if_neg (not_not.mpr hexponent), if_pos hshift, scaledUnsafe, if_pos hstrip]
          exact ⟨_, rfl⟩
      · rw [if_pos hexponent, scaledUnsafe, if_pos hstrip]
        exact ⟨_, rfl⟩
    · obtain ⟨hexponent, hshift, hexact⟩ := shiftOf_exact hcapacity hdecimals
        ((length_coefficient_le hfound).trans hlength) hcoefficient hvalue hbound
      obtain ⟨digits, hdigits⟩ := shiftCoefficient_ok path decimals hvalue hbound hcoefficient
      rw [← hexact, shiftOf] at hdigits
      rw [shiftOf] at hshift
      have hnumber := (shiftCoefficient_eq_ok hdigits).1
      rw [← shiftOf, hexact, hvalue] at hnumber
      have hsame : digits.number = c := by exact_mod_cast hnumber
      have hshort : digits.significant.length ≤ capacity :=
        length_significant_of_lt hpos (hsame ▸ hbound)
      rw [if_neg (not_not.mpr hexponent), if_neg (not_not.mpr hshift), hdigits, ok_bind,
        require_of hshort, ok_bind]
      exact ⟨_, rfl⟩

/-- A text of the grammar is packed exactly if its number fits the field, unless it is a zero whose
exponent moves the point beyond the digits of the field. -/
theorem encodePackedDecimal_accepts_iff (host : Host) (path : String)
    (hbytes : 1 ≤ byteLength ∧ byteLength ≤ 16) (hdecimals : decimals ≤ min 14 (2 * byteLength - 1))
    (hlength : text.length ≤ maxPackedDecimalTextLength) (hfound : matchFinite text = some found) :
    ((∃ bytes, encodePackedDecimal host path (.text text) byteLength decimals = .ok bytes) ↔
      ∃ n : ℤ, rational found * 10 ^ decimals = n ∧ |n| < 10 ^ (2 * byteLength - 1)) ↔
    ¬ZeroBeyondCapacity found decimals (2 * byteLength - 1) := by
  have hgeometry : geometry path byteLength decimals = .ok (2 * byteLength - 1) := by
    rw [geometry, require_of hbytes, ok_bind]
    dsimp only
    rw [Nat.mul_comm, require_of hdecimals, ok_bind]
  have hne : text ≠ [] := by
    rintro rfl
    cases hfound
  have htext : decimalText host (.text text) path = .ok text := by
    rw [decimalText, nonEmptyText, if_neg hne]
  have hencode : (∃ bytes, encodePackedDecimal host path (.text text) byteLength decimals =
      .ok bytes) ↔ ∃ scaled, scaledDigits path decimals (2 * byteLength - 1) text = .ok scaled := by
    rw [encodePackedDecimal, hgeometry, ok_bind, htext, ok_bind, require_of hlength, ok_bind]
    cases scaledDigits path decimals (2 * byteLength - 1) text with
    | error message => simp
    | ok scaled => simp
  rw [hencode, scaledDigits_isOk_iff path (by omega) (by omega) (by omega) hlength hfound]
  constructor
  · intro hsame hbeyond
    have hvalue : rational found * 10 ^ decimals = (0 : ℤ) := by
      rw [rational_eq_zero hbeyond.1, zero_mul, Int.cast_zero]
    exact (hsame.mpr ⟨0, hvalue, by positivity⟩).2 hbeyond
  · exact fun hinside => ⟨fun h => h.1, fun h => ⟨h, hinside⟩⟩

/-- A zero is packed although its exponent is beyond the safe range. -/
theorem encodePackedDecimal_accepts_zero :
    ∃ bytes, encodePackedDecimal ⟨fun _ => [], fun _ => none⟩ "AMOUNT"
      (.text (JsString.literal "0e99999999999999999999")) 2 0 = .ok bytes := by
  have hfound : matchFinite (JsString.literal "0e99999999999999999999") =
      some ⟨false, [0], [], 99999999999999999999⟩ := by decide +kernel
  have hzero : FiniteMatch.magnitude ⟨false, [0], [], 99999999999999999999⟩ = 0 :=
    scaled_eq_zero_iff.mpr rfl
  refine ((encodePackedDecimal_accepts_iff ⟨fun _ => [], fun _ => none⟩ "AMOUNT" (by decide)
    (by decide) (by decide) hfound).mpr ?_).mpr ⟨0, ?_, by decide⟩
  · rintro ⟨-, hexponent, -, -⟩
    exact absurd hexponent (by decide)
  · rw [rational_eq_zero hzero, zero_mul, Int.cast_zero]

/-- `0e4` is zero, and refused by a field of three digits. -/
theorem zero_refused :
    ¬∀ (host : Host) (path : String) (text : JsString) (found : FiniteMatch) (byteLength decimals : Nat),
      1 ≤ byteLength ∧ byteLength ≤ 16 → decimals ≤ min 14 (2 * byteLength - 1) →
      text.length ≤ maxPackedDecimalTextLength → matchFinite text = some found →
      ((∃ bytes, encodePackedDecimal host path (.text text) byteLength decimals = .ok bytes) ↔
        ∃ n : ℤ, rational found * 10 ^ decimals = n ∧ |n| < 10 ^ (2 * byteLength - 1)) := by
  intro h
  have hrefused : encodePackedDecimal ⟨fun _ => [], fun _ => none⟩ "AMOUNT"
      (.text (JsString.literal "0e4")) 2 0 = .error (exceedsCapacity "AMOUNT" 3) := by decide +kernel
  have hvalue : rational ⟨false, [0], [], 4⟩ * 10 ^ 0 = (0 : ℤ) := by
    rw [rational_eq_zero (scaled_eq_zero_iff.mpr rfl), zero_mul, Int.cast_zero]
  obtain ⟨bytes, hbytes⟩ := (h ⟨fun _ => [], fun _ => none⟩ "AMOUNT" (JsString.literal "0e4")
    ⟨false, [0], [], 4⟩ 2 0 (by decide) (by decide) (by decide) (by decide)).mpr
    ⟨0, hvalue, by decide⟩
  exact absurd (hrefused.symm.trans hbytes) nofun

end Acceptance
end OpenRfc.Values
