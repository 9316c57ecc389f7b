import OpenRfc.Foundation.Bytes

/-!
The numbers of JavaScript: the parts of a binary64 pattern, the integers among them which are safe,
and the eight bytes in which a number is stored.
-/

instance Double.neZero_exponents : NeZero 0x800 := ⟨by decide⟩

instance Double.neZero_fractions : NeZero (2 ^ 52) := ⟨by decide⟩

structure Double where
  negative : Bool
  exponent : Fin 0x800
  fraction : Fin (2 ^ 52)
deriving DecidableEq, Repr

namespace Double

/-- `Number.MAX_SAFE_INTEGER` -/
def maxSafeInteger : Nat := 2 ^ 53 - 1

/-- `Number.isFinite(d)` -/
def isFinite (d : Double) : Bool := d.exponent.val ≠ 0x7ff

def significand (d : Double) : Nat := 2 ^ 52 + d.fraction.val

/-- The absolute value, if it is an integer. -/
def magnitude? (d : Double) : Option Nat :=
  if d.exponent.val = 0x7ff then none
  else if d.exponent.val = 0 then (if d.fraction.val = 0 then some 0 else none)
  else if 1075 ≤ d.exponent.val then some (d.significand * 2 ^ (d.exponent.val - 1075))
  else if d.significand % 2 ^ (1075 - d.exponent.val) = 0 then
    some (d.significand / 2 ^ (1075 - d.exponent.val))
  else none

/-- The integer which a number is, if `Number.isSafeInteger(d)`. -/
def safeInteger? (d : Double) : Option Int :=
  match d.magnitude? with
  | some n => if n ≤ maxSafeInteger then some (if d.negative then -(n : Int) else n) else none
  | none => none

def zero : Double := ⟨false, 0, 0⟩
def negativeZero : Double := ⟨true, 0, 0⟩

/-- The number without the sign of zero, as `===` compares numbers. -/
def withoutZeroSign (d : Double) : Double := if d = negativeZero then zero else d

/-- The number with a safe integer for its absolute value. -/
def ofMagnitude (negative : Bool) (n : Nat) : Double :=
  if n = 0 then zero
  else ⟨negative, Fin.ofNat 0x800 (1023 + n.log2), Fin.ofNat (2 ^ 52) (n * 2 ^ (52 - n.log2))⟩

/-- The number of a safe integer. There is no sign on the zero. -/
def ofInt (n : Int) : Double := ofMagnitude (n < 0) n.natAbs

/-- `buffer.writeDoubleLE(d)` -/
def littleEndian (d : Double) : Bytes :=
  Bytes.littleEndian 8 (d.negative.toNat * 2 ^ 63 + d.exponent.val * 2 ^ 52 + d.fraction.val)

/-- `buffer.readDoubleLE()` -/
def ofLittleEndian (bytes : Bytes) : Double :=
  let bits := Bytes.littleNumber bytes
  ⟨bits / 2 ^ 63 = 1, Fin.ofNat 0x800 (bits / 2 ^ 52), Fin.ofNat (2 ^ 52) bits⟩

@[simp] theorem length_littleEndian (d : Double) : d.littleEndian.length = 8 :=
  Bytes.length_littleEndian _ _

theorem ofLittleEndian_littleEndian (d : Double) : ofLittleEndian d.littleEndian = d := by
  obtain ⟨negative, ⟨exponent, hexponent⟩, ⟨fraction, hfraction⟩⟩ := d
  have hsign : negative.toNat < 2 := Bool.toNat_lt negative
  have hbits : negative.toNat * 2 ^ 63 + exponent * 2 ^ 52 + fraction < 256 ^ 8 := by omega
  rw [ofLittleEndian, littleEndian, Bytes.littleNumber_littleEndian hbits]
  congr 1
  · cases negative with
    | false =>
        rw [decide_eq_false_iff_not]
        simp only [Bool.toNat_false]
        omega
    | true =>
        rw [decide_eq_true_iff]
        simp only [Bool.toNat_true]
        omega
  · apply Fin.ext
    change (negative.toNat * 2 ^ 63 + exponent * 2 ^ 52 + fraction) / 2 ^ 52 % 0x800 = exponent
    omega
  · apply Fin.ext
    change (negative.toNat * 2 ^ 63 + exponent * 2 ^ 52 + fraction) % 2 ^ 52 = fraction
    omega

section Integers

/-- A significand which is a multiple of a power of two is normalized by that power. -/
theorem log2_of_scaled {n shift : Nat} (hlow : 2 ^ 52 ≤ n * 2 ^ shift)
    (hhigh : n * 2 ^ shift < 2 ^ 53) : shift ≤ 52 ∧ n.log2 = 52 - shift := by
  have hpos : 0 < 2 ^ shift := Nat.two_pow_pos shift
  have hn : n ≠ 0 := by
    rintro rfl
    simp at hlow
  have hshift : shift ≤ 52 := by
    by_contra hlarge
    have hpow : 2 ^ 53 ≤ 2 ^ shift := Nat.pow_le_pow_right (by decide) (by omega)
    have hle : 2 ^ shift ≤ n * 2 ^ shift := Nat.le_mul_of_pos_left _ (Nat.pos_of_ne_zero hn)
    omega
  refine ⟨hshift, ?_⟩
  rw [Nat.log2_eq_iff hn]
  have hsplit : 2 ^ 52 = 2 ^ (52 - shift) * 2 ^ shift := by
    rw [← Nat.pow_add, Nat.sub_add_cancel hshift]
  have hnext : 2 ^ 53 = 2 ^ (52 - shift + 1) * 2 ^ shift := by
    rw [← Nat.pow_add]
    congr 1
    omega
  constructor
  · rw [hsplit] at hlow
    exact Nat.le_of_mul_le_mul_right hlow hpos
  · rw [hnext] at hhigh
    exact Nat.lt_of_mul_lt_mul_right hhigh

/-- The parts of a number are determined by the integer which it is. -/
theorem eq_ofMagnitude {d : Double} {n : Nat} (h : d.magnitude? = some n) (hn : n ≤ maxSafeInteger)
    (hne : n ≠ 0) : d = ofMagnitude d.negative n := by
  have hsafe : maxSafeInteger = 2 ^ 53 - 1 := rfl
  have hfraction := d.fraction.isLt
  have hexponent := d.exponent.isLt
  rw [magnitude?] at h
  split at h
  · exact absurd h nofun
  split at h
  · split at h
    · exact absurd (Option.some.inj h).symm hne
    · exact absurd h nofun
  rename_i hspecial hsubnormal
  have hscaled : ∃ shift, n * 2 ^ shift = d.significand ∧ d.exponent.val + shift = 1075 := by
    split at h
    · rename_i hlarge
      have hvalue := Option.some.inj h
      have hexact : d.exponent.val = 1075 := by
        by_contra hne
        have hpow : 2 ^ 1 ≤ 2 ^ (d.exponent.val - 1075) :=
          Nat.pow_le_pow_right (by decide) (by omega)
        have hmul := Nat.mul_le_mul_left d.significand hpow
        have hsignificand : 2 ^ 52 ≤ d.significand := Nat.le_add_right _ _
        omega
      refine ⟨0, ?_, hexact⟩
      rw [← hvalue, hexact, Nat.sub_self, Nat.pow_zero, Nat.mul_one, Nat.mul_one]
    · split at h
      · rename_i hmod
        refine ⟨1075 - d.exponent.val, ?_, by omega⟩
        rw [← Option.some.inj h]
        exact Nat.div_mul_cancel (Nat.dvd_of_mod_eq_zero hmod)
      · exact absurd h nofun
  obtain ⟨shift, hvalue, hshift⟩ := hscaled
  rw [significand] at hvalue
  obtain ⟨hle, hlog⟩ := log2_of_scaled (by omega) (by omega : n * 2 ^ shift < 2 ^ 53)
  rw [ofMagnitude, if_neg hne, hlog, Nat.sub_sub_self hle, hvalue]
  cases d with
  | mk negative exponent fraction =>
      congr 1
      · apply Fin.ext
        change exponent.val = (1023 + (52 - shift)) % 0x800
        dsimp only at hshift hexponent
        omega
      · apply Fin.ext
        change fraction.val = (2 ^ 52 + fraction.val) % 2 ^ 52
        dsimp only at hfraction
        omega

/-- A number which is a safe integer is the number of that integer, up to the sign of zero. -/
theorem eq_ofInt {d : Double} {n : Int} (h : d.safeInteger? = some n) :
    n.natAbs ≤ maxSafeInteger ∧ (n ≠ 0 → d = ofInt n) := by
  rw [safeInteger?] at h
  split at h
  · rename_i m hmagnitude
    split at h
    · rename_i hsafe
      have hvalue := Option.some.inj h
      have habs : n.natAbs = m := by
        rw [← hvalue]
        split <;> simp
      refine ⟨habs.trans_le hsafe, fun hne => ?_⟩
      have hm : m ≠ 0 := by omega
      have heq := eq_ofMagnitude hmagnitude hsafe hm
      have hsign : d.negative = decide (n < 0) := by
        cases hnegative : d.negative with
        | false =>
            rw [hnegative, if_neg Bool.false_ne_true] at hvalue
            exact (decide_eq_false (by omega)).symm
        | true =>
            rw [hnegative, if_pos rfl] at hvalue
            exact (decide_eq_true (by omega)).symm
      rw [ofInt, habs, ← hsign]
      exact heq
    · exact absurd h nofun
  · exact absurd h nofun

theorem eq_zero_of_magnitude {d : Double} (h : d.magnitude? = some 0) :
    d = zero ∨ d = negativeZero := by
  have hpos : 0 < d.significand := Nat.add_pos_left (by decide) _
  rw [magnitude?] at h
  split at h
  · exact absurd h nofun
  split at h
  · rename_i hexponent
    split at h
    · rename_i hfraction
      obtain ⟨negative, exponent, fraction⟩ := d
      obtain rfl : exponent = 0 := Fin.ext hexponent
      obtain rfl : fraction = 0 := Fin.ext hfraction
      cases negative with
      | false => exact .inl rfl
      | true => exact .inr rfl
    · exact absurd h nofun
  · split at h
    · have hvalue := Option.some.inj h
      have hmul := Nat.mul_pos hpos (Nat.two_pow_pos (d.exponent.val - 1075))
      omega
    · split at h
      · rename_i hmod
        have hvalue := Option.some.inj h
        have hmul := Nat.div_mul_cancel (Nat.dvd_of_mod_eq_zero hmod)
        rw [hvalue, Nat.zero_mul] at hmul
        omega
      · exact absurd h nofun

/-- A safe integer is read again as the number which it has been. -/
theorem ofInt_safeInteger {d : Double} {n : Int} (h : d.safeInteger? = some n) :
    ofInt n = d.withoutZeroSign := by
  have hzero : negativeZero.safeInteger? = some 0 := by decide
  by_cases hn : n = 0
  · subst hn
    have hmagnitude : d.magnitude? = some 0 := by
      rw [safeInteger?] at h
      split at h
      · rename_i m hm
        split at h
        · have hvalue := Option.some.inj h
          rw [hm]
          congr 1
          split at hvalue <;> omega
        · exact absurd h nofun
      · exact absurd h nofun
    obtain rfl | rfl := eq_zero_of_magnitude hmagnitude
    · decide
    · decide
  · have hd := (eq_ofInt h).2 hn
    have hne : d ≠ negativeZero := by
      rintro rfl
      rw [hzero] at h
      exact hn (Option.some.inj h).symm
    rw [withoutZeroSign, if_neg hne, ← hd]

end Integers
end Double
