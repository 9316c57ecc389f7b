import Mathlib.Data.Int.Basic
import Mathlib.Data.Nat.Bitwise
import Mathlib.Data.Nat.Log
import Mathlib.Tactic.Zify

/-!
The operators of JavaScript on numbers which are integers. Sums and products are rounded to 53
binary digits; the bitwise operators take the last 32 binary digits of their operands.
-/

namespace JsInteger

/-- The number of `shift` dropped binary digits which is nearest to an integer, and even where there
are two of them. -/
def roundTo (shift magnitude : Nat) : Nat :=
  let kept := magnitude / 2 ^ shift
  let dropped := 2 * (magnitude % 2 ^ shift)
  if dropped < 2 ^ shift ∨ dropped = 2 ^ shift ∧ kept % 2 = 0 then kept * 2 ^ shift
  else (kept + 1) * 2 ^ shift

/-- The number which stands for the result of an exact operation. -/
def round (n : Int) : Int := n.sign * roundTo (n.natAbs.log2 - 52) n.natAbs

def add (m n : Int) : Int := round (m + n)
def sub (m n : Int) : Int := round (m - n)
def mul (m n : Int) : Int := round (m * n)

/-- `ToUint32` -/
def toUint32 (n : Int) : Nat := (n % 2 ^ 32).toNat

/-- `ToInt32` -/
def toInt32 (n : Int) : Int := if toUint32 n < 2 ^ 31 then toUint32 n else toUint32 n - 2 ^ 32

/-- `m & n` -/
def bitAnd (m n : Int) : Int := toInt32 (toUint32 m &&& toUint32 n : Nat)

/-- `m ^ n` -/
def bitXor (m n : Int) : Int := toInt32 (toUint32 m ^^^ toUint32 n : Nat)

/-- `n << count` -/
def shiftLeft (n : Int) (count : Nat) : Int := toInt32 (toUint32 n <<< (count % 32) : Nat)

/-- `n >>> count` -/
def shiftRight (n : Int) (count : Nat) : Int := (toUint32 n >>> (count % 32) : Nat)

section Rounding
variable {n : Int}

/-- An integer of at most 53 binary digits is a number. -/
theorem round_of_natAbs_lt (h : n.natAbs < 2 ^ 53) : round n = n := by
  have hlog : n.natAbs.log2 - 52 = 0 := by
    by_cases hzero : n.natAbs = 0
    · simp [hzero]
    · have hlt := (Nat.log2_lt hzero).mpr h
      omega
  have hexact : roundTo 0 n.natAbs = n.natAbs := by simp [roundTo, Nat.mod_one]
  rw [round, hlog, hexact, Int.sign_mul_natAbs]

end Rounding

section Conversions
variable {m n : Int}

theorem toUint32_lt (n : Int) : toUint32 n < 2 ^ 32 := by
  have hlow := Int.emod_nonneg n (by decide : (2 ^ 32 : Int) ≠ 0)
  have hhigh := Int.emod_lt_of_pos n (by decide : (0 : Int) < 2 ^ 32)
  rw [toUint32]
  omega

@[simp] theorem toUint32_natCast (k : Nat) : toUint32 k = k % 2 ^ 32 := by
  rw [toUint32]
  omega

/-- The sign does not change the last binary digits. -/
@[simp] theorem toUint32_toInt32 (n : Int) : toUint32 (toInt32 n) = toUint32 n := by
  have hlt := toUint32_lt n
  rw [toInt32]
  split
  · rw [toUint32_natCast, Nat.mod_eq_of_lt hlt]
  · rw [toUint32]
    omega

@[simp] theorem toUint32_bitXor (m n : Int) : toUint32 (bitXor m n) = toUint32 m ^^^ toUint32 n := by
  have hlt : toUint32 m ^^^ toUint32 n < 2 ^ 32 := Nat.xor_lt_two_pow (toUint32_lt m) (toUint32_lt n)
  rw [bitXor, toUint32_toInt32, toUint32_natCast, Nat.mod_eq_of_lt hlt]

@[simp] theorem toUint32_shiftLeft (n : Int) (count : Nat) :
    toUint32 (shiftLeft n count) = toUint32 n * 2 ^ (count % 32) % 2 ^ 32 := by
  rw [shiftLeft, toUint32_toInt32, toUint32_natCast, Nat.shiftLeft_eq]

/-- A mask takes the last binary digits, also of a negative number. -/
theorem bitAnd_mask (n : Int) {width : Nat} (h : width < 32) :
    bitAnd n (2 ^ width - 1 : Nat) = n % (2 ^ width : Nat) := by
  have hpow : 2 ^ width ≤ 2 ^ 31 := Nat.pow_le_pow_right (by decide) (by omega)
  have hmask : toUint32 (2 ^ width - 1 : Nat) = 2 ^ width - 1 := by
    rw [toUint32_natCast, Nat.mod_eq_of_lt (by omega)]
  have hsplit : (2 ^ width : Nat) ∣ 2 ^ 32 := Nat.pow_dvd_pow 2 h.le
  have hlast : ((toUint32 n % 2 ^ width : Nat) : Int) = n % (2 ^ width : Nat) := by
    have hcast : (toUint32 n : Int) = n % (2 ^ 32 : Nat) := by
      rw [toUint32]
      omega
    rw [Int.natCast_mod, hcast, Int.emod_emod_of_dvd n (Int.natCast_dvd_natCast.mpr hsplit)]
  have hlt : toUint32 n % 2 ^ width < 2 ^ width := Nat.mod_lt _ (Nat.two_pow_pos width)
  rw [bitAnd, hmask, Nat.and_two_pow_sub_one_eq_mod, toInt32, toUint32_natCast,
    Nat.mod_eq_of_lt (by omega), if_pos (by omega), hlast]

end Conversions
end JsInteger
