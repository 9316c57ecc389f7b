import OpenRfc.DecimalFloat.Declet
import OpenRfc.Foundation.Bytes

/-!
The interchange formats. A number is a sign, five bits of combination with the highest digit and
the highest bits of the exponent, the rest of the exponent, and the other digits in declets.
-/

namespace OpenRfc.DecimalFloat

/-- A format, whose widths fit together. -/
structure DecimalFloatFormat where
  label : String
  byteLength : Nat
  precision : Nat
  exponentContinuationBits : Nat
  coefficientContinuationBits : Nat
  exponentBias : Nat
  bits : byteLength * 8 = exponentContinuationBits + coefficientContinuationBits + 6
  declets : coefficientContinuationBits = 10 * ((precision - 1) / 3)
  digits : precision = 3 * ((precision - 1) / 3) + 1
  exponentBits : 0 < exponentContinuationBits
  small : precision ≤ 34 ∧ exponentContinuationBits ≤ 12 ∧ exponentBias ≤ 6176

def DECF16 : DecimalFloatFormat where
  label := "DECF16"
  byteLength := 8
  precision := 16
  exponentContinuationBits := 8
  coefficientContinuationBits := 50
  exponentBias := 398
  bits := rfl
  declets := rfl
  digits := rfl
  exponentBits := by decide
  small := by decide

def DECF34 : DecimalFloatFormat where
  label := "DECF34"
  byteLength := 16
  precision := 34
  exponentContinuationBits := 12
  coefficientContinuationBits := 110
  exponentBias := 6176
  bits := rfl
  declets := rfl
  digits := rfl
  exponentBits := by decide
  small := by decide

structure FiniteDecimal where
  negative : Bool
  coefficient : Digits
  exponent : Int
deriving DecidableEq, Repr

inductive SpecialKind
  | infinity
  | nan
  | snan
deriving DecidableEq, Repr

structure SpecialDecimal where
  negative : Bool
  kind : SpecialKind
  diagnostic : Digits
deriving DecidableEq, Repr

inductive DecimalValue
  | special (value : SpecialDecimal)
  | finite (value : FiniteDecimal)
deriving DecidableEq, Repr

section Codec
variable (format : DecimalFloatFormat)

def writeLittleEndian (value byteLength : Nat) : Bytes := (Bytes.bigEndian byteLength value).reverse

def readLittleEndian (value : Bytes) : Nat := Bytes.number value.reverse

def totalBits : Nat := format.byteLength * 8

def signBit (negative : Bool) : Nat := if negative then 1 <<< (totalBits format - 1) else 0

def encodeSpecial (value : SpecialDecimal) : Nat :=
  let sign := signBit format value.negative
  let combinationShift := totalBits format - 6
  match value.kind with
  | .infinity => sign ||| (0b11110 <<< combinationShift)
  | kind =>
    let diagnosticDigits := value.diagnostic.pad (format.precision - 1)
    let diagnostic := encodeCoefficientContinuation diagnosticDigits
    let signaling := if kind = .snan then
      1 <<< (format.coefficientContinuationBits + format.exponentContinuationBits - 1) else 0
    sign ||| (0b11111 <<< combinationShift) ||| signaling ||| diagnostic

def combinationOf (exponentMostSignificant mostSignificantDigit : Nat) : Nat :=
  if mostSignificantDigit ≤ 7 then (exponentMostSignificant <<< 3) ||| mostSignificantDigit
  else 0b11000 ||| (exponentMostSignificant <<< 1) ||| (mostSignificantDigit - 8)

def encodeFinite (value : FiniteDecimal) : Nat :=
  let digits := value.coefficient.pad format.precision
  let mostSignificantDigit := (digits.head?.getD 0).val
  let coefficientContinuation := encodeCoefficientContinuation digits.tail
  let encodedExponent := (value.exponent + format.exponentBias).toNat
  let exponentMostSignificant := encodedExponent >>> format.exponentContinuationBits
  let exponentContinuationMask := (1 <<< format.exponentContinuationBits) - 1
  let exponentContinuation := encodedExponent &&& exponentContinuationMask
  signBit format value.negative |||
    (combinationOf exponentMostSignificant mostSignificantDigit <<< (totalBits format - 6)) |||
    (exponentContinuation <<< format.coefficientContinuationBits) ||| coefficientContinuation

def encodeValue : DecimalValue → Bytes
  | .special value => writeLittleEndian (encodeSpecial format value) format.byteLength
  | .finite value => writeLittleEndian (encodeFinite format value) format.byteLength

/-- The highest bits of the exponent and the highest digit, of a combination for a number. -/
def splitCombination (combination : Nat) : Nat × Nat :=
  if combination < 0b11000 then (combination >>> 3, combination &&& 0b111)
  else ((combination >>> 1) &&& 0b11, 8 + (combination &&& 1))

/-- The bits which are written: declets without redundancy, and zeros wherever the bits of an
infinity or a NaN are ignored. -/
def CanonicalBits (encoded : Nat) : Prop :=
  let combination := (encoded >>> (totalBits format - 6)) &&& 0b11111
  if combination = 0b11110 then
    encoded &&& (1 <<< format.coefficientContinuationBits) - 1 = 0 ∧
      (encoded >>> format.coefficientContinuationBits) &&&
        (1 <<< format.exponentContinuationBits) - 1 = 0
  else
    CanonicalDeclets ((format.precision - 1) / 3)
        (encoded &&& (1 <<< format.coefficientContinuationBits) - 1) ∧
      (combination = 0b11111 → (encoded >>> format.coefficientContinuationBits) &&&
        (1 <<< (format.exponentContinuationBits - 1)) - 1 = 0)

/-- What the bits of a number say. The coefficient has all digits of the format. -/
def decodeBits (encoded : Nat) : DecimalValue :=
  let negative := (encoded >>> (totalBits format - 1)) &&& 1 = 1
  let combination := (encoded >>> (totalBits format - 6)) &&& 0b11111
  let coefficientMask := (1 <<< format.coefficientContinuationBits) - 1
  let coefficientContinuation := encoded &&& coefficientMask
  if combination = 0b11110 then .special ⟨negative, .infinity, []⟩
  else if combination = 0b11111 then
    let signalingBit :=
      format.coefficientContinuationBits + format.exponentContinuationBits - 1
    let signaling := (encoded >>> signalingBit) &&& 1 = 1
    let diagnostic :=
      (decodeCoefficientContinuation coefficientContinuation (format.precision - 1)).stripZeros
    .special ⟨negative, if signaling then .snan else .nan, diagnostic⟩
  else
    let (exponentMostSignificant, mostSignificantDigit) := splitCombination combination
    let exponentContinuationMask := (1 <<< format.exponentContinuationBits) - 1
    let exponentContinuation :=
      (encoded >>> format.coefficientContinuationBits) &&& exponentContinuationMask
    let exponent :=
      (exponentMostSignificant <<< format.exponentContinuationBits) ||| exponentContinuation
    let coefficient := Fin.ofNat 10 mostSignificantDigit ::
      decodeCoefficientContinuation coefficientContinuation (format.precision - 1)
    .finite ⟨negative, coefficient, exponent - format.exponentBias⟩

def decodeValue (value : Bytes) : DecimalValue := decodeBits format (readLittleEndian value)

def Canonical (value : Bytes) : Prop :=
  value.length = format.byteLength ∧ CanonicalBits format (readLittleEndian value)

end Codec

section Packing
variable {format : DecimalFloatFormat} {sign combination exponent coefficient : Nat}

/-- The number with these bits, one group behind the other. -/
def pack (format : DecimalFloatFormat) (sign combination exponent coefficient : Nat) : Nat :=
  ((sign * 32 + combination) * 2 ^ format.exponentContinuationBits + exponent) *
    2 ^ format.coefficientContinuationBits + coefficient

/-- Groups of bits which fit into their places. -/
structure Fits (format : DecimalFloatFormat) (combination exponent coefficient : Nat) : Prop where
  combination : combination < 2 ^ 5
  exponent : exponent < 2 ^ format.exponentContinuationBits
  coefficient : coefficient < 2 ^ format.coefficientContinuationBits

theorem or_pack (h : Fits format combination exponent coefficient) :
    (sign <<< (totalBits format - 1)) ||| (combination <<< (totalBits format - 6)) |||
        (exponent <<< format.coefficientContinuationBits) ||| coefficient =
      pack format sign combination exponent coefficient := by
  have hbits := format.bits
  have hsign : totalBits format - 1 =
      5 + (format.exponentContinuationBits + format.coefficientContinuationBits) := by
    rw [totalBits]
    omega
  have hcombination : totalBits format - 6 =
      format.exponentContinuationBits + format.coefficientContinuationBits := by
    rw [totalBits]
    omega
  rw [hsign, hcombination, Nat.shiftLeft_add, ← Nat.shiftLeft_or_distrib,
    shiftLeft_or h.combination, Nat.shiftLeft_add, ← Nat.shiftLeft_or_distrib,
    shiftLeft_or h.exponent, shiftLeft_or h.coefficient]
  rfl

theorem coefficient_pack (h : Fits format combination exponent coefficient) :
    pack format sign combination exponent coefficient &&&
      ((1 <<< format.coefficientContinuationBits) - 1) = coefficient := by
  rw [Nat.one_shiftLeft]
  exact mask_append h.coefficient _

theorem pack_shiftRight (h : Fits format combination exponent coefficient) :
    pack format sign combination exponent coefficient >>> format.coefficientContinuationBits =
      (sign * 32 + combination) * 2 ^ format.exponentContinuationBits + exponent :=
  shiftRight_append h.coefficient _

theorem exponent_pack (h : Fits format combination exponent coefficient) :
    (pack format sign combination exponent coefficient >>> format.coefficientContinuationBits) &&&
      ((1 <<< format.exponentContinuationBits) - 1) = exponent := by
  rw [Nat.one_shiftLeft, pack_shiftRight h]
  exact mask_append h.exponent _

theorem combination_pack (h : Fits format combination exponent coefficient) :
    (pack format sign combination exponent coefficient >>> (totalBits format - 6)) &&& 0b11111 =
      combination := by
  have hbits := format.bits
  have hshift : totalBits format - 6 =
      format.coefficientContinuationBits + format.exponentContinuationBits := by
    rw [totalBits]
    omega
  rw [hshift, Nat.shiftRight_add, pack_shiftRight h, shiftRight_append h.exponent]
  exact mask_append h.combination sign

theorem sign_pack (h : Fits format combination exponent coefficient) (hsign : sign < 2) :
    (pack format sign combination exponent coefficient >>> (totalBits format - 1)) &&& 1 =
      sign := by
  have hbits := format.bits
  have hshift : totalBits format - 1 =
      format.coefficientContinuationBits + (format.exponentContinuationBits + 5) := by
    rw [totalBits]
    omega
  have hlow : sign < 2 ^ 1 := hsign
  have hmask := mask_append hlow 0
  rw [hshift, Nat.shiftRight_add, pack_shiftRight h, Nat.shiftRight_add,
    shiftRight_append h.exponent]
  change (sign * 2 ^ 5 + combination) >>> 5 &&& 1 = sign
  rw [shiftRight_append h.combination]
  rwa [Nat.zero_mul, Nat.zero_add] at hmask

theorem pack_lt (h : Fits format combination exponent coefficient) (hsign : sign < 2) :
    pack format sign combination exponent coefficient < 256 ^ format.byteLength := by
  have hpow : 256 ^ format.byteLength = 2 * 32 * 2 ^ format.exponentContinuationBits *
      2 ^ format.coefficientContinuationBits := by
    have hbits := format.bits
    have hsum : format.byteLength * 8 =
        1 + 5 + format.exponentContinuationBits + format.coefficientContinuationBits := by omega
    calc 256 ^ format.byteLength = 2 ^ (format.byteLength * 8) := by
          rw [Nat.mul_comm, Nat.pow_mul]
      _ = 2 * 32 * 2 ^ format.exponentContinuationBits *
          2 ^ format.coefficientContinuationBits := by rw [hsum, Nat.pow_add, Nat.pow_add]
  have hhigh : sign * 32 + combination + 1 ≤ 2 * 32 := by
    have hc : combination < 32 := h.combination
    omega
  rw [hpow, pack]
  calc ((sign * 32 + combination) * 2 ^ format.exponentContinuationBits + exponent) *
        2 ^ format.coefficientContinuationBits + coefficient
      < ((sign * 32 + combination) * 2 ^ format.exponentContinuationBits + exponent + 1) *
        2 ^ format.coefficientContinuationBits := by
        rw [Nat.succ_mul]
        exact Nat.add_lt_add_left h.coefficient _
    _ ≤ ((sign * 32 + combination + 1) * 2 ^ format.exponentContinuationBits) *
        2 ^ format.coefficientContinuationBits := by
        apply Nat.mul_le_mul_right
        rw [Nat.succ_mul, Nat.add_assoc]
        exact Nat.add_le_add_left h.exponent _
    _ ≤ 2 * 32 * 2 ^ format.exponentContinuationBits *
        2 ^ format.coefficientContinuationBits :=
        Nat.mul_le_mul_right _ (Nat.mul_le_mul_right _ hhigh)

end Packing

section Values
variable {format : DecimalFloatFormat}

/-- The numbers and the special values which a format represents. -/
def DecimalValue.Valid (format : DecimalFloatFormat) : DecimalValue → Prop
  | .finite value => value.coefficient.length ≤ format.precision ∧
      0 ≤ value.exponent + format.exponentBias ∧
      value.exponent + format.exponentBias < 3 * 2 ^ format.exponentContinuationBits
  | .special value =>
      if value.kind = .infinity then value.diagnostic = []
      else value.diagnostic.length ≤ format.precision - 1 ∧
        value.diagnostic.stripZeros = value.diagnostic

/-- A value with all digits of the format. -/
def DecimalValue.padded (format : DecimalFloatFormat) : DecimalValue → DecimalValue
  | .finite value => .finite { value with coefficient := value.coefficient.pad format.precision }
  | .special value => .special value

theorem splitCombination_combinationOf :
    ∀ exponentMostSignificant < 3, ∀ mostSignificantDigit < 10,
      combinationOf exponentMostSignificant mostSignificantDigit < 30 ∧
        splitCombination (combinationOf exponentMostSignificant mostSignificantDigit) =
          (exponentMostSignificant, mostSignificantDigit) := by
  decide

theorem splitCombination_lt :
    ∀ combination < 30, (splitCombination combination).1 < 3 ∧
      (splitCombination combination).2 < 10 := by
  decide

theorem signBit_eq (negative : Bool) :
    signBit format negative = negative.toNat <<< (totalBits format - 1) := by
  cases negative with
  | false => exact (Nat.zero_shiftLeft _).symm
  | true => rfl

/-- The digits of a declet string of the format. -/
theorem decode_continuation {digits : Digits}
    (h : digits.length = 3 * ((format.precision - 1) / 3)) :
    encodeCoefficientContinuation digits < 2 ^ format.coefficientContinuationBits ∧
      decodeCoefficientContinuation (encodeCoefficientContinuation digits)
        (format.precision - 1) = digits := by
  rw [format.declets]
  exact decodeDeclets_encode h

theorem length_continuation (format : DecimalFloatFormat) (bits : Nat) :
    (decodeCoefficientContinuation bits (format.precision - 1)).length = format.precision - 1 := by
  have hdigits := format.digits
  rw [decodeCoefficientContinuation, length_decodeDeclets]
  omega

/-- The padded digits of a coefficient: the highest one, and those which go into declets. -/
theorem pad_precision {digits : Digits} (h : digits.length ≤ format.precision) :
    ∃ first rest, digits.pad format.precision = first :: rest ∧
      rest.length = 3 * ((format.precision - 1) / 3) := by
  have hlength := Digits.length_pad digits h
  have hdigits := format.digits
  cases hpad : digits.pad format.precision with
  | nil =>
      rw [hpad, List.length_nil] at hlength
      omega
  | cons first rest =>
      rw [hpad, List.length_cons] at hlength
      exact ⟨first, rest, rfl, by omega⟩

theorem decodeBits_encodeFinite {value : FiniteDecimal}
    (h : (DecimalValue.finite value).Valid format) :
    encodeFinite format value < 256 ^ format.byteLength ∧
      decodeBits format (encodeFinite format value) =
        (DecimalValue.finite value).padded format ∧
      CanonicalBits format (encodeFinite format value) := by
  obtain ⟨hlength, hlow, hhigh⟩ := h
  obtain ⟨first, rest, hpad, hrest⟩ := pad_precision hlength
  obtain ⟨hcoefficient, hdigits⟩ := decode_continuation hrest
  generalize hencoded : (value.exponent + format.exponentBias).toNat = encodedExponent
  have hexponent : value.exponent = encodedExponent - format.exponentBias := by omega
  have hmost : encodedExponent >>> format.exponentContinuationBits < 3 := by
    rw [Nat.shiftRight_eq_div_pow]
    apply Nat.div_lt_of_lt_mul
    rw [Nat.mul_comm]
    have hcast : (encodedExponent : Int) < 3 * 2 ^ format.exponentContinuationBits := by omega
    exact_mod_cast hcast
  obtain ⟨hcombination, hsplit⟩ :=
    splitCombination_combinationOf _ hmost first.val first.isLt
  have hlowExponent : encodedExponent &&& (1 <<< format.exponentContinuationBits) - 1 <
      2 ^ format.exponentContinuationBits := by
    rw [Nat.one_shiftLeft, Nat.and_two_pow_sub_one_eq_mod]
    exact Nat.mod_lt _ (Nat.two_pow_pos _)
  have hfits : Fits format
      (combinationOf (encodedExponent >>> format.exponentContinuationBits) first)
      (encodedExponent &&& (1 <<< format.exponentContinuationBits) - 1)
      (encodeCoefficientContinuation rest) :=
    ⟨by omega, hlowExponent, hcoefficient⟩
  have hsign : value.negative.toNat < 2 := Bool.toNat_lt _
  have hjoin : (encodedExponent >>> format.exponentContinuationBits) <<<
      format.exponentContinuationBits |||
        (encodedExponent &&& (1 <<< format.exponentContinuationBits) - 1) = encodedExponent := by
    rw [shiftLeft_or hlowExponent, Nat.one_shiftLeft, Nat.and_two_pow_sub_one_eq_mod,
      Nat.shiftRight_eq_div_pow, Nat.mul_comm, Nat.div_add_mod]
  have hpack : encodeFinite format value = pack format value.negative.toNat
      (combinationOf (encodedExponent >>> format.exponentContinuationBits) first)
      (encodedExponent &&& (1 <<< format.exponentContinuationBits) - 1)
      (encodeCoefficientContinuation rest) := by
    rw [encodeFinite, hpad, hencoded, signBit_eq]
    exact or_pack hfits
  rw [hpack]
  refine ⟨pack_lt hfits hsign, ?_, ?_⟩
  · rw [decodeBits, sign_pack hfits hsign, combination_pack hfits, coefficient_pack hfits]
    dsimp only
    rw [if_neg (by omega), if_neg (by omega), exponent_pack hfits, hsplit, hdigits]
    dsimp only
    rw [hjoin, DecimalValue.padded, hpad, hexponent]
    congr 2
    · cases value.negative with
      | false => rfl
      | true => rfl
    · exact congrArg (· :: rest) (Fin.ext (Nat.mod_eq_of_lt first.isLt))
  · rw [CanonicalBits, combination_pack hfits, coefficient_pack hfits, if_neg (by omega)]
    exact ⟨canonicalDeclets_encode hrest, fun he => absurd he (by omega)⟩

theorem decide_sign (negative : Bool) : decide (negative.toNat = 1) = negative := by
  cases negative with
  | false => rfl
  | true => rfl

theorem decodeBits_infinity (negative : Bool) :
    encodeSpecial format ⟨negative, .infinity, []⟩ < 256 ^ format.byteLength ∧
      decodeBits format (encodeSpecial format ⟨negative, .infinity, []⟩) =
        .special ⟨negative, .infinity, []⟩ ∧
      CanonicalBits format (encodeSpecial format ⟨negative, .infinity, []⟩) := by
  have hfits : Fits format 0b11110 0 0 :=
    ⟨by decide, Nat.two_pow_pos _, Nat.two_pow_pos _⟩
  have hsign : negative.toNat < 2 := Bool.toNat_lt _
  have hpack : encodeSpecial format ⟨negative, .infinity, []⟩ =
      pack format negative.toNat 0b11110 0 0 := by
    rw [← or_pack hfits, Nat.zero_shiftLeft, Nat.or_zero, Nat.or_zero, ← signBit_eq]
    rfl
  rw [hpack]
  refine ⟨pack_lt hfits hsign, ?_, ?_⟩
  · rw [decodeBits, sign_pack hfits hsign, combination_pack hfits]
    dsimp only
    rw [if_pos rfl, decide_sign]
  · rw [CanonicalBits, combination_pack hfits, coefficient_pack hfits, exponent_pack hfits,
      if_pos rfl]
    exact ⟨rfl, rfl⟩

theorem two_pow_exponentContinuationBits (format : DecimalFloatFormat) :
    2 ^ format.exponentContinuationBits = 2 * 2 ^ (format.exponentContinuationBits - 1) := by
  rw [← Nat.pow_succ', Nat.succ_eq_add_one, Nat.sub_add_cancel format.exponentBits]

/-- The bit of a signaling NaN is the highest one of the exponent. -/
theorem signaling_pack {sign combination coefficient : Nat} {signaling : Nat}
    (h : Fits format combination (signaling * 2 ^ (format.exponentContinuationBits - 1))
      coefficient) (hsignaling : signaling < 2) :
    (pack format sign combination (signaling * 2 ^ (format.exponentContinuationBits - 1))
        coefficient >>>
      (format.coefficientContinuationBits + format.exponentContinuationBits - 1)) &&& 1 =
        signaling := by
  have hbits := format.exponentBits
  have hshift : format.coefficientContinuationBits + format.exponentContinuationBits - 1 =
      format.coefficientContinuationBits + (format.exponentContinuationBits - 1) := by omega
  have hjoin : (sign * 32 + combination) * 2 ^ format.exponentContinuationBits +
      signaling * 2 ^ (format.exponentContinuationBits - 1) =
        ((sign * 32 + combination) * 2 + signaling) *
          2 ^ (format.exponentContinuationBits - 1) + 0 := by
    rw [two_pow_exponentContinuationBits]
    ring
  have hlow : signaling < 2 ^ 1 := hsignaling
  rw [hshift, Nat.shiftRight_add, pack_shiftRight h, hjoin,
    shiftRight_append (Nat.two_pow_pos _)]
  exact mask_append hlow (sign * 32 + combination)

theorem decodeBits_nan (negative signaling : Bool) {diagnostic : Digits}
    (hlength : diagnostic.length ≤ format.precision - 1)
    (hstrip : diagnostic.stripZeros = diagnostic) :
    encodeSpecial format ⟨negative, if signaling then .snan else .nan, diagnostic⟩ <
        256 ^ format.byteLength ∧
      decodeBits format
          (encodeSpecial format ⟨negative, if signaling then .snan else .nan, diagnostic⟩) =
        .special ⟨negative, if signaling then .snan else .nan, diagnostic⟩ ∧
      CanonicalBits format
        (encodeSpecial format ⟨negative, if signaling then .snan else .nan, diagnostic⟩) := by
  have hbits := format.exponentBits
  have hdigits := format.digits
  have hpad : (diagnostic.pad (format.precision - 1)).length =
      3 * ((format.precision - 1) / 3) := by
    rw [Digits.length_pad diagnostic hlength]
    omega
  obtain ⟨hcoefficient, hdecode⟩ := decode_continuation hpad
  have hexponent : signaling.toNat * 2 ^ (format.exponentContinuationBits - 1) <
      2 ^ format.exponentContinuationBits := by
    rw [two_pow_exponentContinuationBits]
    exact Nat.mul_lt_mul_of_pos_right (Bool.toNat_lt _) (Nat.two_pow_pos _)
  have hfits : Fits format 0b11111
      (signaling.toNat * 2 ^ (format.exponentContinuationBits - 1))
      (encodeCoefficientContinuation (diagnostic.pad (format.precision - 1))) :=
    ⟨by decide, hexponent, hcoefficient⟩
  have hsign : negative.toNat < 2 := Bool.toNat_lt _
  have hpack : encodeSpecial format ⟨negative, if signaling then .snan else .nan, diagnostic⟩ =
      pack format negative.toNat 0b11111
        (signaling.toNat * 2 ^ (format.exponentContinuationBits - 1))
        (encodeCoefficientContinuation (diagnostic.pad (format.precision - 1))) := by
    have hshift : format.coefficientContinuationBits + format.exponentContinuationBits - 1 =
        format.exponentContinuationBits - 1 + format.coefficientContinuationBits := by omega
    rw [← or_pack hfits, ← signBit_eq]
    cases signaling with
    | false => rw [Bool.toNat_false, Nat.zero_mul, Nat.zero_shiftLeft]; rfl
    | true =>
        rw [Bool.toNat_true, Nat.one_mul, ← Nat.one_shiftLeft, ← Nat.shiftLeft_add, ← hshift]
        rfl
  rw [hpack]
  refine ⟨pack_lt hfits hsign, ?_, ?_⟩
  · rw [decodeBits, sign_pack hfits hsign, combination_pack hfits, coefficient_pack hfits]
    dsimp only
    rw [if_neg (by decide), if_pos rfl, signaling_pack hfits (Bool.toNat_lt _), hdecode,
      Digits.stripZeros_pad, hstrip, decide_sign]
    cases signaling with
    | false => rfl
    | true => rfl
  · rw [CanonicalBits, combination_pack hfits, coefficient_pack hfits, if_neg (by decide)]
    refine ⟨canonicalDeclets_encode hpad, fun _ => ?_⟩
    rw [pack_shiftRight hfits, Nat.one_shiftLeft, Nat.and_two_pow_sub_one_eq_mod,
      two_pow_exponentContinuationBits, ← Nat.mul_assoc, ← Nat.add_mul, Nat.mul_mod_left]

/-- What is written for a value is read as the value, with all its digits, and is canonical. -/
theorem decodeValue_encodeValue {value : DecimalValue} (h : value.Valid format) :
    decodeValue format (encodeValue format value) = value.padded format ∧
      Canonical format (encodeValue format value) := by
  have hread (n : Nat) (hn : n < 256 ^ format.byteLength) :
      readLittleEndian (writeLittleEndian n format.byteLength) = n := by
    rw [readLittleEndian, writeLittleEndian, List.reverse_reverse, Bytes.number_bigEndian _ hn]
  have hlength (n : Nat) : (writeLittleEndian n format.byteLength).length = format.byteLength := by
    rw [writeLittleEndian, List.length_reverse, Bytes.length_bigEndian]
  cases value with
  | finite value =>
      obtain ⟨hlt, hdecode, hcanonical⟩ := decodeBits_encodeFinite h
      rw [decodeValue, Canonical, encodeValue, hread _ hlt, hdecode]
      exact ⟨rfl, hlength _, hcanonical⟩
  | special value =>
      have hspecial : encodeSpecial format value < 256 ^ format.byteLength ∧
          decodeBits format (encodeSpecial format value) = .special value ∧
          CanonicalBits format (encodeSpecial format value) := by
        obtain ⟨negative, kind, diagnostic⟩ := value
        cases kind with
        | infinity =>
            obtain rfl : diagnostic = [] := h
            exact decodeBits_infinity negative
        | nan => exact decodeBits_nan negative false h.1 h.2
        | snan => exact decodeBits_nan negative true h.1 h.2
      obtain ⟨hlt, hdecode, hcanonical⟩ := hspecial
      rw [decodeValue, Canonical, encodeValue, hread _ hlt, hdecode]
      exact ⟨rfl, hlength _, hcanonical⟩

/-- The values which are read are in the range of the format. -/
theorem valid_decodeValue (format : DecimalFloatFormat) (bytes : Bytes) :
    (decodeValue format bytes).Valid format := by
  have hdigits := format.digits
  generalize hencoded : readLittleEndian bytes = encoded
  have hcombination : (encoded >>> (totalBits format - 6)) &&& 0b11111 < 2 ^ 5 :=
    Nat.and_lt_two_pow _ (by decide)
  rw [decodeValue, hencoded, decodeBits]
  dsimp only
  split
  · rfl
  · split
    · have hlength := Digits.length_stripZeros_le (decodeCoefficientContinuation
        (encoded &&& 1 <<< format.coefficientContinuationBits - 1) (format.precision - 1))
      rw [length_continuation] at hlength
      have hne (signaling : Prop) [Decidable signaling] :
          (if signaling then SpecialKind.snan else SpecialKind.nan) ≠ .infinity := by
        split
        · exact nofun
        · exact nofun
      rw [DecimalValue.Valid, if_neg (hne _)]
      exact ⟨hlength, Digits.stripZeros_stripZeros _⟩
    · obtain ⟨hmost, hdigit⟩ := splitCombination_lt
        ((encoded >>> (totalBits format - 6)) &&& 0b11111) (by omega)
      generalize splitCombination ((encoded >>> (totalBits format - 6)) &&& 0b11111) = pair at *
      obtain ⟨most, digit⟩ := pair
      have hlow : (encoded >>> format.coefficientContinuationBits) &&&
          1 <<< format.exponentContinuationBits - 1 < 2 ^ format.exponentContinuationBits := by
        rw [Nat.one_shiftLeft, Nat.and_two_pow_sub_one_eq_mod]
        exact Nat.mod_lt _ (Nat.two_pow_pos _)
      have hlength : (Fin.ofNat 10 digit :: decodeCoefficientContinuation
          (encoded &&& 1 <<< format.coefficientContinuationBits - 1)
          (format.precision - 1)).length = format.precision := by
        rw [List.length_cons, length_continuation]
        omega
      dsimp only
      refine ⟨hlength.le, ?_, ?_⟩
      · dsimp only
        omega
      · dsimp only
        rw [shiftLeft_or hlow, Int.sub_add_cancel]
        have hbound : most * 2 ^ format.exponentContinuationBits +
            ((encoded >>> format.coefficientContinuationBits) &&&
              1 <<< format.exponentContinuationBits - 1) <
                3 * 2 ^ format.exponentContinuationBits :=
          calc _ < most * 2 ^ format.exponentContinuationBits +
                2 ^ format.exponentContinuationBits := Nat.add_lt_add_left hlow _
            _ = (most + 1) * 2 ^ format.exponentContinuationBits := (Nat.succ_mul _ _).symm
            _ ≤ 3 * 2 ^ format.exponentContinuationBits := Nat.mul_le_mul_right _ hmost
        exact_mod_cast hbound

end Values
end OpenRfc.DecimalFloat
