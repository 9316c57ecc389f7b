import Mathlib.Data.Nat.Digits.Lemmas

/-!
Byte strings: buffers of a fixed size which are filled from the front, and unsigned numbers
with the most significant byte first.
-/

abbrev Bytes := List UInt8

namespace Bytes

def alloc (size : Nat) : Bytes := List.replicate size 0

/-- The number of bytes of `data` which fit into a buffer behind an offset. -/
def room (buffer : Bytes) (offset : Nat) (data : Bytes) : Nat :=
  min data.length (buffer.length - offset)

/-- Overwrite the bytes behind an offset. The length of the buffer does not change. -/
def write (buffer : Bytes) (offset : Nat) (data : Bytes) : Bytes :=
  buffer.take offset ++ data.take (room buffer offset data) ++
    buffer.drop (offset + room buffer offset data)

@[simp] theorem length_alloc (size : Nat) : (alloc size).length = size := by
  simp [alloc]

theorem room_of_fits {buffer data : Bytes} {offset : Nat}
    (h : offset + data.length ≤ buffer.length) : room buffer offset data = data.length := by
  unfold room
  omega

/-- Writing at the end of what is filled. -/
theorem write_alloc (filled data : Bytes) {free offset : Nat} (ho : offset = filled.length)
    (hd : data.length ≤ free) :
    write (filled ++ alloc free) offset data = (filled ++ data) ++ alloc (free - data.length) := by
  have hr : room (filled ++ alloc free) offset data = data.length := by
    apply room_of_fits
    simp only [List.length_append, length_alloc]
    omega
  subst ho
  unfold write
  rw [hr, List.take_left, List.take_length, List.drop_append, List.drop_eq_nil_of_le (by omega)]
  simp [alloc]

theorem write_eq {buffer data : Bytes} {offset : Nat} (h : offset + data.length ≤ buffer.length) :
    write buffer offset data = buffer.take offset ++ data ++ buffer.drop (offset + data.length) := by
  rw [write, room_of_fits h, List.take_length]

/-- The bytes of a field at a fixed place. -/
def slice (bytes : Bytes) (offset length : Nat) : Bytes := (bytes.drop offset).take length

theorem slice_append (before field after : Bytes) {offset length : Nat}
    (ho : offset = before.length) (hl : length = field.length) :
    slice (before ++ field ++ after) offset length = field := by
  subst ho hl
  simp [slice]

theorem length_slice {bytes : Bytes} {offset length : Nat} (h : offset + length ≤ bytes.length) :
    (slice bytes offset length).length = length := by
  rw [slice, List.length_take, List.length_drop]
  omega

section Overwritten
variable {buffer data : Bytes} {offset : Nat} (h : offset + data.length ≤ buffer.length)
include h

theorem length_write : (write buffer offset data).length = buffer.length := by
  simp only [write_eq h, List.length_append, List.length_take, List.length_drop]
  omega

/-- What stands in front of the data is left as it was. -/
theorem take_write {count : Nat} (hcount : count ≤ offset) :
    (write buffer offset data).take count = buffer.take count := by
  have hlength : (buffer.take offset).length = offset := List.length_take_of_le (by omega)
  rw [write_eq h, List.append_assoc, List.take_append_of_le_length (by omega), List.take_take,
    Nat.min_eq_left hcount]

/-- What stands behind the data is left as it was. -/
theorem drop_write {count : Nat} (hcount : offset + data.length ≤ count) :
    (write buffer offset data).drop count = buffer.drop count := by
  have hlength : (buffer.take offset ++ data).length = offset + data.length := by
    rw [List.length_append, List.length_take_of_le (by omega)]
  rw [write_eq h, List.drop_append, List.drop_eq_nil_of_le (by omega), List.nil_append, hlength,
    List.drop_drop]
  congr 1
  omega

/-- Data in a field of zeros. -/
theorem slice_write {length : Nat} (hzeros : buffer.drop offset = alloc (buffer.length - offset))
    (hfits : data.length ≤ length) (hend : offset + length ≤ buffer.length) :
    slice (write buffer offset data) offset length = data ++ alloc (length - data.length) := by
  have htake : (buffer.take offset).length = offset := List.length_take_of_le (by omega)
  have hrest : buffer.drop (offset + data.length) = alloc (buffer.length - offset - data.length) := by
    rw [← List.drop_drop, hzeros, alloc, List.drop_replicate, alloc]
  rw [slice, write_eq h, List.append_assoc, List.drop_left' htake, List.take_append,
    List.take_of_length_le hfits, hrest, alloc, List.take_replicate, alloc]
  congr 2
  omega

end Overwritten

/-- A field is determined by the bytes up to its end. -/
theorem slice_take {bytes : Bytes} {offset length count : Nat} (h : offset + length ≤ count) :
    slice (bytes.take count) offset length = slice bytes offset length := by
  rw [slice, slice, List.drop_take, List.take_take, Nat.min_eq_left (by omega)]

/-- The bytes up to a field, and the field. -/
theorem take_append_slice (bytes : Bytes) (offset length : Nat) :
    bytes.take offset ++ slice bytes offset length = bytes.take (offset + length) := by
  rw [slice, List.take_add]

/-- Byte strings of one size, of which the last may be shorter. -/
def chunks (size : Nat) (bytes : Bytes) : List Bytes :=
  (List.range ((bytes.length + size - 1) / size)).map fun i => slice bytes (i * size) size

theorem flatten_slices (bytes : Bytes) (size count : Nat) :
    ((List.range count).map fun i => slice bytes (i * size) size).flatten =
      bytes.take (count * size) := by
  induction count with
  | zero => simp
  | succ count ih =>
      rw [List.range_succ, List.map_append, List.flatten_append, ih, List.map_singleton,
        List.flatten_singleton, take_append_slice, Nat.succ_mul]

theorem flatten_chunks {size : Nat} (hs : 0 < size) (bytes : Bytes) :
    (chunks size bytes).flatten = bytes := by
  have hcover := Nat.lt_div_mul_add (a := bytes.length + size - 1) hs
  rw [chunks, flatten_slices]
  apply List.take_of_length_le
  omega

theorem ne_nil_of_mem_chunks {size : Nat} {bytes chunk : Bytes} (hs : 0 < size)
    (h : chunk ∈ chunks size bytes) : chunk ≠ [] := by
  obtain ⟨i, hi, rfl⟩ := List.mem_map.mp h
  have hle : (i + 1) * size ≤ bytes.length + size - 1 :=
    (Nat.le_div_iff_mul_le hs).mp (List.mem_range.mp hi)
  rw [Nat.succ_mul] at hle
  apply List.ne_nil_of_length_pos
  rw [slice, List.length_take, List.length_drop]
  omega

/-- The number which a byte string denotes. -/
def number (bytes : Bytes) : Nat := bytes.foldl (fun value byte => value * 256 + byte.toNat) 0

/-- The byte string of a given width which denotes a number, modulo the width. -/
def bigEndian : Nat → Nat → Bytes
  | 0, _ => []
  | width + 1, value => bigEndian width (value / 256) ++ [UInt8.ofNat value]

@[simp] theorem length_bigEndian (width value : Nat) :
    (bigEndian width value).length = width := by
  induction width generalizing value with
  | zero => rfl
  | succ width ih => simp [bigEndian, ih]

@[simp] theorem number_nil : number [] = 0 := rfl

@[simp] theorem number_singleton (byte : UInt8) : number [byte] = byte.toNat := by
  simp [number]

theorem number_append_singleton (bytes : Bytes) (byte : UInt8) :
    number (bytes ++ [byte]) = number bytes * 256 + byte.toNat := by
  simp [number]

theorem number_alloc (size : Nat) : number (alloc size) = 0 := by
  induction size with
  | zero => rfl
  | succ size ih =>
      rw [alloc, List.replicate_succ', number_append_singleton, ← alloc, ih]
      rfl

theorem number_bigEndian (width : Nat) {value : Nat} (h : value < 256 ^ width) :
    number (bigEndian width value) = value := by
  induction width generalizing value with
  | zero =>
      simp only [Nat.pow_zero] at h
      simp [bigEndian]
      omega
  | succ width ih =>
      have hd : value / 256 < 256 ^ width := by
        apply Nat.div_lt_of_lt_mul
        rw [Nat.mul_comm, ← Nat.pow_succ]
        exact h
      rw [bigEndian, number_append_singleton, ih hd, UInt8.toNat_ofNat']
      omega

/-- Byte strings of one length are told apart by their numbers. -/
theorem number_injective {xs ys : Bytes} (hl : xs.length = ys.length)
    (h : number xs = number ys) : xs = ys := by
  induction xs using List.reverseRecOn generalizing ys with
  | nil => exact (List.length_eq_zero_iff.mp hl.symm).symm
  | append_singleton xs x ih =>
      induction ys using List.reverseRecOn with
      | nil => simp at hl
      | append_singleton ys y _ =>
          simp only [List.length_append, List.length_singleton, Nat.add_right_cancel_iff] at hl
          rw [number_append_singleton, number_append_singleton] at h
          have hx := UInt8.toNat_lt x
          have hy := UInt8.toNat_lt y
          rw [ih hl (by omega), UInt8.toNat_inj.mp (by omega : x.toNat = y.toNat)]

theorem number_lt (bytes : Bytes) : number bytes < 256 ^ bytes.length := by
  induction bytes using List.reverseRecOn with
  | nil => exact Nat.one_pos
  | append_singleton bytes byte ih =>
      have hb := UInt8.toNat_lt byte
      rw [number_append_singleton, List.length_append, List.length_singleton, Nat.pow_succ]
      omega

theorem number_slice_lt (bytes : Bytes) (offset length : Nat) :
    number (slice bytes offset length) < 256 ^ length := by
  apply Nat.lt_of_lt_of_le (number_lt _)
  apply Nat.pow_le_pow_right (by decide)
  exact List.length_take_le _ _

/-- The number of a byte string gives the byte string back. -/
theorem bigEndian_number {bytes : Bytes} {width : Nat} (h : bytes.length = width) :
    bigEndian width (number bytes) = bytes := by
  subst h
  apply number_injective (length_bigEndian _ _)
  exact number_bigEndian _ (number_lt bytes)

end Bytes

/-! Integers with the least significant byte first, in two's complement where they have a sign. -/

namespace Bytes

def littleEndian (width value : Nat) : Bytes := (bigEndian width value).reverse

def littleNumber (bytes : Bytes) : Nat := number bytes.reverse

def signedLittleEndian (width : Nat) (value : Int) : Bytes :=
  littleEndian width (value % 256 ^ width).toNat

/-- The upper half of the numbers of a width denotes the negative integers. -/
def signedLittleNumber (bytes : Bytes) : Int :=
  if 2 * littleNumber bytes < 256 ^ bytes.length then littleNumber bytes
  else littleNumber bytes - 256 ^ bytes.length

@[simp] theorem length_littleEndian (width value : Nat) :
    (littleEndian width value).length = width := by
  simp [littleEndian]

@[simp] theorem length_signedLittleEndian (width : Nat) (value : Int) :
    (signedLittleEndian width value).length = width :=
  length_littleEndian _ _

theorem littleNumber_littleEndian {width value : Nat} (h : value < 256 ^ width) :
    littleNumber (littleEndian width value) = value := by
  simp [littleNumber, littleEndian, number_bigEndian width h]

theorem littleEndian_littleNumber {bytes : Bytes} {width : Nat} (h : bytes.length = width) :
    littleEndian width (littleNumber bytes) = bytes := by
  have hlength : bytes.reverse.length = width := by simp [h]
  simp [littleNumber, littleEndian, bigEndian_number hlength]

theorem littleNumber_lt (bytes : Bytes) : littleNumber bytes < 256 ^ bytes.length := by
  have h := number_lt bytes.reverse
  simpa [littleNumber] using h

/-- An integer within the range of a width is read as it has been written. -/
theorem signedLittleNumber_signedLittleEndian {width : Nat} {value : Int}
    (hlow : -(256 ^ width : Int) ≤ 2 * value) (hhigh : 2 * value < 256 ^ width) :
    signedLittleNumber (signedLittleEndian width value) = value := by
  have hpos : (0 : Int) < 256 ^ width := by positivity
  have hnonneg := Int.emod_nonneg value hpos.ne'
  have hlt := Int.emod_lt_of_pos value hpos
  have hfits : (value % 256 ^ width).toNat < 256 ^ width := by
    zify
    omega
  have hnumber := littleNumber_littleEndian hfits
  have hcast : (((256 ^ width : Nat) : Int)) = 256 ^ width := by push_cast; rfl
  rw [signedLittleNumber, length_signedLittleEndian, signedLittleEndian, hnumber]
  by_cases hsign : 0 ≤ value
  · have hmod : value % 256 ^ width = value := Int.emod_eq_of_lt hsign (by omega)
    rw [hmod, if_pos (by zify; omega)]
    omega
  · have hmod : value % 256 ^ width = value + 256 ^ width := by
      rw [← Int.add_emod_right]
      exact Int.emod_eq_of_lt (by omega) (by omega)
    rw [hmod, if_neg (by zify; omega)]
    omega

theorem signedLittleEndian_signedLittleNumber {bytes : Bytes} {width : Nat}
    (h : bytes.length = width) : signedLittleEndian width (signedLittleNumber bytes) = bytes := by
  have hlt := littleNumber_lt bytes
  rw [h] at hlt
  have hmod : signedLittleNumber bytes % 256 ^ width = littleNumber bytes := by
    have hcast : ((littleNumber bytes : Nat) : Int) < 256 ^ width := by exact_mod_cast hlt
    rw [signedLittleNumber, h]
    split
    · exact Int.emod_eq_of_lt (Int.natCast_nonneg _) hcast
    · rw [Int.sub_emod_right]
      exact Int.emod_eq_of_lt (Int.natCast_nonneg _) hcast
  rw [signedLittleEndian, hmod, Int.toNat_natCast, littleEndian_littleNumber h]

end Bytes
