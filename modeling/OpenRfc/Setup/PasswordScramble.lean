import OpenRfc.Foundation.JsInteger
import OpenRfc.Setup.AsciiText

/-!
The password field of a logon. Each byte of a password is combined with a byte that depends only on
the seed and on the position, and the seed stands in front of them.
-/

namespace OpenRfc.Setup
open Fallible

def passwordScrambleTable : Bytes := [
  0xf0, 0xed, 0x53, 0xb8, 0x32, 0x44, 0xf1, 0xf8, 0x76, 0xc6, 0x79, 0x59, 0xfd,
  0x4f, 0x13, 0xa2, 0xc1, 0x51, 0x95, 0xec, 0x54, 0x83, 0xc2, 0x34, 0x77, 0x49,
  0x43, 0xa2, 0x7d, 0xe2, 0x65, 0x96, 0x5e, 0x53, 0x98, 0x78, 0x9a, 0x17, 0xa3,
  0x3c, 0xd3, 0x83, 0xa8, 0xb8, 0x29, 0xfb, 0xdc, 0xa5, 0x55, 0xd7, 0x02, 0x77,
  0x84, 0x13, 0xac, 0xdd, 0xf9, 0xb8, 0x31, 0x16, 0x61, 0x0e, 0x6d, 0xfa]

section Scrambling
variable (actualSeed : Int)

def mixedSeed : Int :=
  JsInteger.shiftRight (JsInteger.bitXor actualSeed (JsInteger.shiftRight actualSeed 5)) 0

def startIndex : Int :=
  JsInteger.shiftRight (JsInteger.bitXor (mixedSeed actualSeed)
    (JsInteger.shiftRight (JsInteger.shiftLeft actualSeed 1) 0)) 0

variable (index : Nat)

def tableValue : UInt8 :=
  passwordScrambleTable.getD (JsInteger.bitAnd (JsInteger.add (startIndex actualSeed) index) 0x3f).toNat 0

def seedTerm : Int :=
  JsInteger.bitAnd (JsInteger.sub (JsInteger.mul (JsInteger.mul actualSeed index) index) index) 0xff

/-- `clear ^ tableValue ^ seedTerm`, stored as a byte -/
def scrambledByte (clear : UInt8) : UInt8 :=
  UInt8.ofNat (JsInteger.toUint32 (JsInteger.bitXor
    (JsInteger.bitXor clear.toNat (tableValue actualSeed index).toNat) (seedTerm actualSeed index)))

end Scrambling

/-- Without a seed there are four random bytes for one. -/
def scrambleRfcPassword (randomBytes : Bytes) (password : JsString) (seed : Option Int) :
    Except String Bytes := do
  require (password.length ≤ 40) "password must contain at most 40 bytes"
  require (isPrintable password) "password contains characters outside the proven ASCII baseline"
  let clear := asciiBytes password
  let actualSeed := seed.getD (Bytes.littleNumber randomBytes)
  require (0 ≤ actualSeed ∧ actualSeed ≤ 0xffffffff)
    "password seed must be an unsigned 32-bit integer"
  .ok (Bytes.littleEndian 4 actualSeed.toNat ++
    clear.mapIdx fun index byte => scrambledByte actualSeed index byte)

section Exactness
variable {seed index : Nat}

/-- The position in the table at which a seed starts, by unbounded arithmetic. -/
def keyStart (seed : Nat) : Nat := (seed ^^^ seed / 2 ^ 5 ^^^ seed * 2) % 2 ^ 32

/-- The byte of a seed at a position. -/
def keyByte (seed index : Nat) : UInt8 :=
  passwordScrambleTable.getD ((keyStart seed + index) % 64) 0 ^^^
    UInt8.ofNat (((seed * index * index : Nat) - index : Int) % 256).toNat

/-- The integers of which a key byte is computed. -/
def keyIntegers (seed index : Nat) : List Int :=
  [(seed * index : Nat), (seed * index * index : Nat), (seed * index * index : Nat) - index,
    (keyStart seed + index : Nat)]

/-- Bytes combined with the key stream of a seed. -/
def combine (seed : Nat) (bytes : Bytes) : Bytes :=
  bytes.mapIdx fun index byte => byte ^^^ keyByte seed index

theorem length_combine (seed : Nat) (bytes : Bytes) : (combine seed bytes).length = bytes.length :=
  List.length_mapIdx

/-- The same key stream takes itself away. -/
theorem combine_combine (seed : Nat) (bytes : Bytes) : combine seed (combine seed bytes) = bytes := by
  have hsame : (fun index byte => (byte ^^^ keyByte seed index) ^^^ keyByte seed index) =
      fun (_ : Nat) byte => byte := by
    funext index byte
    rw [UInt8.xor_assoc, UInt8.xor_self, UInt8.xor_zero]
  rw [combine, combine, List.mapIdx_mapIdx]
  refine (congrArg (List.mapIdx · bytes) hsame).trans ?_
  apply List.ext_getElem
  · exact List.length_mapIdx
  · intro index hindex _
    exact List.getElem_mapIdx

/-- No integer on the way to a key byte has more than 53 binary digits. -/
theorem keyIntegers_lt (hseed : seed < 2 ^ 32) (hindex : index < 40) :
    ∀ n ∈ keyIntegers seed index, n.natAbs < 2 ^ 53 := by
  have hone : seed * index ≤ 2 ^ 32 * 40 := Nat.mul_le_mul hseed.le hindex.le
  have htwo : seed * index * index ≤ 2 ^ 32 * 40 * 40 := Nat.mul_le_mul hone hindex.le
  have hstart : keyStart seed < 2 ^ 32 := Nat.mod_lt _ (by decide)
  simp only [keyIntegers, List.mem_cons, List.not_mem_nil, or_false, forall_eq_or_imp, forall_eq]
  refine ⟨?_, ?_, ?_, ?_⟩ <;> omega

theorem round_keyIntegers (hseed : seed < 2 ^ 32) (hindex : index < 40) :
    ∀ n ∈ keyIntegers seed index, JsInteger.round n = n :=
  fun n hn => JsInteger.round_of_natAbs_lt (keyIntegers_lt hseed hindex n hn)

theorem startIndex_eq (hseed : seed < 2 ^ 32) : startIndex seed = keyStart seed := by
  have hshifted : seed / 2 ^ 5 < 2 ^ 32 := by omega
  have hmixed : seed ^^^ seed / 2 ^ 5 < 2 ^ 32 := Nat.xor_lt_two_pow hseed hshifted
  have hdoubled : seed * 2 % 2 ^ 32 < 2 ^ 32 := Nat.mod_lt _ (by decide)
  rw [keyStart, Nat.xor_mod_two_pow, Nat.mod_eq_of_lt hmixed]
  simp only [startIndex, mixedSeed, JsInteger.shiftRight, JsInteger.toUint32_bitXor,
    JsInteger.toUint32_natCast, JsInteger.toUint32_shiftLeft, Nat.shiftRight_eq_div_pow,
    Nat.reduceMod, Nat.pow_zero, Nat.div_one, Nat.pow_one, Nat.mod_eq_of_lt hseed,
    Nat.mod_eq_of_lt hshifted, Nat.mod_eq_of_lt hmixed, Nat.mod_eq_of_lt hdoubled]

theorem tableValue_eq (hseed : seed < 2 ^ 32) (hindex : index < 40) :
    tableValue seed index = passwordScrambleTable.getD ((keyStart seed + index) % 64) 0 := by
  have hexact : JsInteger.add (keyStart seed) index = (keyStart seed + index : Nat) :=
    round_keyIntegers hseed hindex _ (by simp [keyIntegers])
  have hmask := JsInteger.bitAnd_mask (keyStart seed + index : Nat) (by decide : 6 < 32)
  have hindex : JsInteger.bitAnd (keyStart seed + index : Nat) 0x3f =
      ((keyStart seed + index) % 64 : Nat) := hmask
  rw [tableValue, startIndex_eq hseed, hexact, hindex, Int.toNat_natCast]

theorem seedTerm_eq (hseed : seed < 2 ^ 32) (hindex : index < 40) :
    seedTerm seed index = ((seed * index * index : Nat) - index : Int) % 256 := by
  have hone : JsInteger.mul seed index = (seed * index : Nat) :=
    round_keyIntegers hseed hindex _ (by simp [keyIntegers])
  have htwo : JsInteger.mul (seed * index : Nat) index = (seed * index * index : Nat) :=
    round_keyIntegers hseed hindex _ (by simp [keyIntegers])
  have hsub : JsInteger.sub (seed * index * index : Nat) index =
      (seed * index * index : Nat) - index :=
    round_keyIntegers hseed hindex _ (by simp [keyIntegers])
  have hmask := JsInteger.bitAnd_mask ((seed * index * index : Nat) - index) (by decide : 8 < 32)
  rw [seedTerm, hone, htwo, hsub]
  exact hmask

/-- A byte is combined as the 32-bit integers are. -/
theorem scrambledByte_eq (hseed : seed < 2 ^ 32) (hindex : index < 40) (clear : UInt8) :
    scrambledByte seed index clear = clear ^^^ keyByte seed index := by
  have hlow := Int.emod_nonneg ((seed * index * index : Nat) - index : Int)
    (by decide : (256 : Int) ≠ 0)
  have hhigh := Int.emod_lt_of_pos ((seed * index * index : Nat) - index : Int)
    (by decide : (0 : Int) < 256)
  rw [scrambledByte, keyByte, tableValue_eq hseed hindex, seedTerm_eq hseed hindex]
  generalize passwordScrambleTable.getD ((keyStart seed + index) % 64) 0 = value
  obtain ⟨term, hterm⟩ := Int.eq_ofNat_of_zero_le hlow
  rw [hterm] at hhigh
  rw [hterm]
  have hclear := clear.toNat_lt
  have hvalue := value.toNat_lt
  have hsmall {n : Nat} (h : n < 256) : n % 2 ^ 32 = n := Nat.mod_eq_of_lt (by omega)
  have hterm : term < 256 := by omega
  apply UInt8.toNat_inj.mp
  have hkey : value.toNat ^^^ term < 2 ^ 8 := Nat.xor_lt_two_pow hvalue hterm
  have hjoined : clear.toNat ^^^ (value.toNat ^^^ term) < 2 ^ 8 := Nat.xor_lt_two_pow hclear hkey
  rw [JsInteger.toUint32_bitXor, JsInteger.toUint32_bitXor, JsInteger.toUint32_natCast,
    JsInteger.toUint32_natCast, JsInteger.toUint32_natCast, hsmall hclear, hsmall hvalue,
    hsmall hterm, Nat.xor_assoc, UInt8.toNat_ofNat', UInt8.toNat_xor, UInt8.toNat_xor,
    Int.toNat_natCast, UInt8.toNat_ofNat', Nat.mod_eq_of_lt hterm, Nat.mod_eq_of_lt hjoined]

/-- The field of a password: the seed, and the bytes of the password combined with a key stream
which depends only on the seed, and which restores the password. -/
theorem scrambleRfcPassword_exact (randomBytes : Bytes) {password : JsString} {seed : Nat}
    (hlength : password.length ≤ 40) (hprintable : isPrintable password = true)
    (hseed : seed < 2 ^ 32) :
    ∃ field, scrambleRfcPassword randomBytes password (some seed) =
        .ok (Bytes.littleEndian 4 seed ++ field) ∧
      field.length = password.length ∧
      (∀ index (h : index < field.length), field[index] =
        (asciiBytes password).getD index 0 ^^^ keyByte seed index) ∧
      (∀ index < field.length, ∀ n ∈ keyIntegers seed index,
        n.natAbs < 2 ^ 53 ∧ JsInteger.round n = n) ∧
      asciiText (combine seed field) = password := by
  have hclear : (asciiBytes password).length = password.length := List.length_map _
  have hbytes : (asciiBytes password).mapIdx (fun index byte => scrambledByte seed index byte) =
      combine seed (asciiBytes password) := by
    rw [combine]
    apply List.ext_getElem
    · rw [List.length_mapIdx, List.length_mapIdx]
    · intro index hindex _
      rw [List.length_mapIdx, hclear] at hindex
      rw [List.getElem_mapIdx, List.getElem_mapIdx, scrambledByte_eq hseed (by omega)]
  refine ⟨combine seed (asciiBytes password), ?_, ?_, ?_, ?_, ?_⟩
  · rw [scrambleRfcPassword, require_of hlength, ok_bind, require_of hprintable, ok_bind]
    dsimp only
    rw [Option.getD_some, require_of (by omega), ok_bind, Int.toNat_natCast, hbytes]
  · rw [length_combine, hclear]
  · intro index h
    rw [length_combine] at h
    simp [combine, h]
  · intro index h n hn
    rw [length_combine, hclear] at h
    exact ⟨keyIntegers_lt hseed (by omega) n hn, round_keyIntegers hseed (by omega) n hn⟩
  · rw [combine_combine, asciiText_asciiBytes hprintable]

/-- `secret`, with a seed that starts at the last place of the table. -/
theorem scrambleRfcPassword_secret :
    scrambleRfcPassword [] (JsString.literal "secret") (some 0x15) =
        .ok [0x15, 0, 0, 0, 0x89, 0x81, 0xdc, 0x9b, 0x91, 0x4e] ∧
      asciiText (combine 0x15 [0x89, 0x81, 0xdc, 0x9b, 0x91, 0x4e]) = JsString.literal "secret" := by
  have hfield : scrambleRfcPassword [] (JsString.literal "secret") (some 0x15) =
      .ok [0x15, 0, 0, 0, 0x89, 0x81, 0xdc, 0x9b, 0x91, 0x4e] := by decide +kernel
  obtain ⟨field, hexact, -, -, -, hback⟩ :=
    @scrambleRfcPassword_exact [] (JsString.literal "secret") 0x15 (by decide) (by decide)
      (by decide)
  refine ⟨hfield, ?_⟩
  obtain rfl : field = [0x89, 0x81, 0xdc, 0x9b, 0x91, 0x4e] :=
    List.append_cancel_left (Except.ok.inj (hexact.symm.trans hfield))
  exact hback

end Exactness
end OpenRfc.Setup
