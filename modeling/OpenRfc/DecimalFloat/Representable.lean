import OpenRfc.DecimalFloat.RoundTrip

/-!
Which numbers are accepted. A number is refused only if no coefficient of the precision and no
exponent of the range denote it.
-/

namespace OpenRfc.DecimalFloat
open Fallible Numeral

section Powers
variable {n c : Nat} {e q : Int}

/-- A product with a power of ten is another number times a smaller power. -/
theorem mul_pow_eq_iff_of_le (h : e ≤ q) :
    (n * 10 ^ e : ℚ) = c * 10 ^ q ↔ n = c * 10 ^ (q - e).toNat := by
  have hten : (10 : ℚ) ≠ 0 := by norm_num
  have hpos : (10 : ℚ) ^ e ≠ 0 := zpow_ne_zero e hten
  have hsplit : (10 : ℚ) ^ q = 10 ^ (q - e).toNat * 10 ^ e := by
    rw [← zpow_natCast, ← zpow_add₀ hten]
    congr 1
    omega
  rw [hsplit, ← mul_assoc, mul_left_inj' hpos]
  exact_mod_cast Iff.rfl

end Powers

/-- A number is a coefficient times a power of ten, within a precision and a range. -/
def Representable (precision : Nat) (minimum maximum : Int) (value : ℚ) : Prop :=
  ∃ (c : Nat) (q : Int), 0 < c ∧ c < 10 ^ precision ∧ minimum ≤ q ∧ q ≤ maximum ∧
    value = c * 10 ^ q

section Completeness
variable {format : DecimalFloatFormat} {coefficient : Digits} {exponent : Int}

/-- The digits beyond the precision are zeros. -/
theorem shortenCoefficient_ok (path : String) (hnormal : Digits.Normal coefficient)
    (h : coefficient = [0] ∨ Representable format.precision (minimumExponent format)
      (maximumExponent format) (scaled coefficient exponent)) :
    ∃ shortened, shortenCoefficient format path coefficient exponent = .ok shortened := by
  rw [shortenCoefficient]
  split
  · rename_i hlong
    obtain ⟨hne, hlength⟩ := hlong
    have hleading := hnormal.resolve_left hne
    obtain ⟨c, q, -, hc, -, -, hvalue⟩ := h.resolve_left hne
    have hlarge : 10 ^ format.precision ≤ coefficient.number :=
      Nat.le_of_not_lt fun hlt => absurd ((hleading.number_lt_pow_iff _).mp hlt) (by omega)
    have hzeros : coefficient.length - format.precision ≤ coefficient.trailingZeroCount := by
      rw [← Digits.pow_dvd_number_iff coefficient hleading.number_pos.ne']
      rcases le_total exponent q with hle | hle
      · -- the power of ten fills what the precision leaves of the digits
        have hnumber := (mul_pow_eq_iff_of_le hle).mp hvalue
        have hbound : coefficient.number < 10 ^ (format.precision + (q - exponent).toNat) := by
          rw [hnumber, Nat.pow_add]
          exact Nat.mul_lt_mul_of_pos_right hc (Nat.pow_pos (by decide))
        have hcount := (hleading.number_lt_pow_iff _).mp hbound
        rw [hnumber]
        exact Dvd.dvd.mul_left (Nat.pow_dvd_pow 10 (by omega)) c
      · have hnumber := (mul_pow_eq_iff_of_le hle).mp hvalue.symm
        have hle := Nat.le_mul_of_pos_right coefficient.number
          (Nat.pow_pos (n := (exponent - q).toNat) (by decide : 0 < 10))
        omega
    dsimp only
    rw [require_of hzeros, ok_bind]
    exact ⟨_, rfl⟩
  · exact ⟨_, rfl⟩

/-- The exponent is brought into the range by zeros which are there, or for which there is room. -/
theorem fitExponent_ok (path : String) (hnormal : Digits.Normal coefficient)
    (h : coefficient = [0] ∨ Representable format.precision (minimumExponent format)
      (maximumExponent format) (scaled coefficient exponent)) :
    ∃ fitted, fitExponent format path coefficient exponent = .ok fitted := by
  rw [fitExponent]
  split
  · exact ⟨_, rfl⟩
  rename_i hne
  have hleading := hnormal.resolve_left hne
  obtain ⟨c, q, -, hc, hlow, hhigh, hvalue⟩ := h.resolve_left hne
  split
  · rename_i hlarge
    have hnumber := (mul_pow_eq_iff_of_le (by omega : q ≤ exponent)).mp hvalue.symm
    rw [hnumber] at hc
    have hroom : coefficient.length + (exponent - q).toNat ≤ format.precision := by
      have hzeros := hleading.append (List.replicate (exponent - q).toNat 0)
      have hlength := hzeros.number_lt_pow_iff format.precision
      rw [Digits.number_append, Digits.number_zeros, List.length_replicate, Nat.add_zero,
        List.length_append, List.length_replicate] at hlength
      exact hlength.mp hc
    dsimp only
    rw [require_of (by omega), ok_bind]
    exact ⟨_, rfl⟩
  · split
    · rename_i hsmall
      have hnumber := (mul_pow_eq_iff_of_le (by omega : exponent ≤ q)).mp hvalue
      have hzeros : (minimumExponent format - exponent).toNat ≤ coefficient.trailingZeroCount := by
        rw [← Digits.pow_dvd_number_iff coefficient hleading.number_pos.ne', hnumber]
        exact Dvd.dvd.mul_left (Nat.pow_dvd_pow 10 (by omega)) c
      dsimp only
      rw [require_of (by omega), ok_bind]
      exact ⟨_, rfl⟩
    · exact ⟨_, rfl⟩

end Completeness

section Acceptance
variable {format : DecimalFloatFormat} {s : JsString} {found : FiniteMatch}

/-- The number which a text denotes, without its sign. -/
def FiniteMatch.magnitude (found : FiniteMatch) : ℚ :=
  scaled (found.integer ++ found.fraction) (found.exponent - found.fraction.length)

theorem scaled_eq_zero_iff {coefficient : Digits} {exponent : Int} :
    scaled coefficient exponent = 0 ↔ coefficient.number = 0 := by
  have hpos : (10 : ℚ) ^ exponent ≠ 0 := zpow_ne_zero exponent (by norm_num)
  rw [scaled, mul_eq_zero, or_iff_left hpos]
  exact_mod_cast Iff.rfl

theorem parseFinite_isOk_iff (path : String) (hfound : matchFinite s = some found) :
    (∃ value, parseFinite format path s = .ok value) ↔ found.magnitude = 0 ∨
      Representable format.precision (minimumExponent format) (maximumExponent format)
        found.magnitude := by
  constructor
  · rintro ⟨value, h⟩
    obtain ⟨found', hfound', ⟨hlength, hlow, hhigh⟩, -, hmeaning⟩ := parseFinite_eq_ok h
    rw [hfound] at hfound'
    obtain rfl := Option.some.inj hfound'
    obtain ⟨-, hvalue⟩ := Meaning.number.inj hmeaning
    by_cases hzero : value.coefficient.number = 0
    · left
      rw [FiniteMatch.magnitude, ← hvalue, scaled_eq_zero_iff, hzero]
    · right
      refine ⟨value.coefficient.number, value.exponent, Nat.pos_of_ne_zero hzero, ?_, ?_, ?_, ?_⟩
      · exact (Digits.number_lt _).trans_le (Nat.pow_le_pow_right (by decide) hlength)
      · rw [minimumExponent]
        omega
      · rw [maximumExponent]
        omega
      · rw [FiniteMatch.magnitude, ← hvalue, scaled]
  · intro h
    have hsignificant : scaled (found.integer ++ found.fraction).significant
        (found.exponent - found.fraction.length) = found.magnitude := by
      rw [scaled, Digits.number_significant]
      rfl
    have hnormal := Digits.normal_significant (found.integer ++ found.fraction)
    have hzero {digits : Digits} {exponent : Int} (hdigits : Digits.Normal digits)
        (hvalue : scaled digits exponent = found.magnitude) :
        digits = [0] ∨ Representable format.precision (minimumExponent format)
          (maximumExponent format) (scaled digits exponent) := by
      rw [hvalue]
      refine h.imp_left fun hmagnitude => ?_
      exact (Digits.number_eq_zero_iff hdigits).mp (scaled_eq_zero_iff.mp (hvalue.trans hmagnitude))
    obtain ⟨⟨shortened, exponent⟩, hshorten⟩ :=
      shortenCoefficient_ok path hnormal (hzero hnormal hsignificant)
    obtain ⟨hnormal', -, hscaled⟩ := shortenCoefficient_eq_ok hnormal hshorten
    obtain ⟨⟨fitted, exponent'⟩, hfit⟩ :=
      fitExponent_ok path hnormal' (hzero hnormal' (hscaled.trans hsignificant))
    refine ⟨⟨found.negative, fitted, exponent'⟩, ?_⟩
    rw [parseFinite, hfound]
    dsimp only
    rw [hshorten, ok_bind]
    dsimp only
    rw [hfit, ok_bind]

/-- A number of up to 4096 characters is accepted exactly if it is zero, or a coefficient within
the precision and an exponent within the range denote it. -/
theorem encodeDecimalFloat_accepts (format : DecimalFloatFormat) (path : String)
    (hlength : s.length ≤ maxDecimalFloatTextLength) (hfound : matchFinite s = some found) :
    (∃ bytes, encodeDecimalFloat format path s = .ok bytes) ↔ found.magnitude = 0 ∨
      ∃ (c : Nat) (q : Int), 0 < c ∧ c < 10 ^ format.precision ∧ -(format.exponentBias : Int) ≤ q ∧
        q ≤ 3 * 2 ^ format.exponentContinuationBits - 1 - format.exponentBias ∧
        found.magnitude = c * 10 ^ q := by
  refine Iff.trans ?_ (parseFinite_isOk_iff path hfound)
  have hparse : parseDecimal format path s =
      (parseFinite format path s >>= fun finite => .ok (.finite finite)) := by
    rw [parseDecimal, require_of hlength, ok_bind, parseSpecial, matchSpecial_of_matchFinite hfound]
    rfl
  rw [encodeDecimalFloat, hparse]
  cases parseFinite format path s with
  | error message => simp
  | ok value => simp

/-- `1E+6144` is beyond the largest exponent of the long format, and padded by 33 zeros. -/
theorem encodeDecimalFloat_accepts_padded :
    ∃ bytes, encodeDecimalFloat34 (JsString.literal "1E+6144") = .ok bytes := by
  have hfound : matchFinite (JsString.literal "1E+6144") = some ⟨false, [1], [], 6144⟩ := by decide
  refine (encodeDecimalFloat_accepts DECF34 "DECF34" (by decide) hfound).mpr
    (.inr ⟨10 ^ 33, 6111, by decide, by decide, by decide, by decide, ?_⟩)
  have hpadded : ((10 ^ 33 : Nat) * 10 ^ (6111 : Int) : ℚ) = (1 : Nat) * 10 ^ (6144 : Int) :=
    (mul_pow_eq_iff_of_le (by decide)).mpr (by decide)
  exact hpadded.symm

end Acceptance
end OpenRfc.DecimalFloat
