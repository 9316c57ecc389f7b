import OpenRfc.Lz4.Encoder

/-!
The bytes of a sequence: what the encoder writes, and what the decoder makes of it in front of
any other bytes.
-/

namespace OpenRfc.Lz4
open Backreference Fallible

section Format

/-- A length behind the part of it which its token holds. -/
def remainderBytes (remainder : Nat) : Bytes :=
  List.replicate (remainder / 255) 0xff ++ [UInt8.ofNat (remainder % 255)]

def extension (length : Nat) : Bytes :=
  if length < 15 then [] else remainderBytes (length - 15)

def token (literalLength extendedLength : Nat) : UInt8 :=
  UInt8.ofNat ((min literalLength 15) <<< 4 ||| min extendedLength 15)

def sequenceBytes (literals : Bytes) (distance matchLength : Nat) : Bytes :=
  token literals.length (matchLength - 4) ::
    (extension literals.length ++ literals ++ (Bytes.bigEndian 2 distance).reverse ++
      extension (matchLength - 4))

/-- The last sequence has no match. -/
def lastBytes (literals : Bytes) : Bytes :=
  token literals.length 0 :: (extension literals.length ++ literals)

theorem remainderBytes_of_lt {remainder : Nat} (h : remainder < 255) :
    remainderBytes remainder = [UInt8.ofNat remainder] := by
  rw [remainderBytes, Nat.div_eq_of_lt h, Nat.mod_eq_of_lt h]
  rfl

theorem remainderBytes_of_le {remainder : Nat} (h : 255 ≤ remainder) :
    remainderBytes remainder = 0xff :: remainderBytes (remainder - 255) := by
  have hd : remainder / 255 = (remainder - 255) / 255 + 1 := by omega
  have hm : remainder % 255 = (remainder - 255) % 255 := by omega
  rw [remainderBytes, hd, hm, List.replicate_succ]
  rfl

theorem length_extension (length : Nat) :
    (extension length).length = if length < 15 then 0 else (length - 15) / 255 + 1 := by
  unfold extension remainderBytes
  split
  · rfl
  · simp

/-- A sequence is hardly longer than what it stands for. -/
theorem length_sequenceBytes (literals : Bytes) (distance : Nat) {matchLength : Nat}
    (h : 4 ≤ matchLength) :
    (sequenceBytes literals distance matchLength).length ≤
      literals.length + matchLength + literals.length / 255 := by
  simp only [sequenceBytes, List.length_cons, List.length_append, List.length_reverse,
    Bytes.length_bigEndian, length_extension]
  split <;> split <;> omega

theorem length_lastBytes (literals : Bytes) :
    (lastBytes literals).length ≤ literals.length + literals.length / 255 + 2 := by
  simp only [lastBytes, List.length_cons, List.length_append, length_extension]
  split <;> omega

theorem token_halves {a b : Nat} (ha : a ≤ 15) (hb : b ≤ 15) :
    (UInt8.ofNat (a <<< 4 ||| b) >>> 4).toNat = a ∧
      (UInt8.ofNat (a <<< 4 ||| b) &&& 0x0f).toNat = b := by
  have hall : ∀ a b : Fin 16, (UInt8.ofNat (a.val <<< 4 ||| b.val) >>> 4).toNat = a.val ∧
      (UInt8.ofNat (a.val <<< 4 ||| b.val) &&& 0x0f).toNat = b.val := by
    decide +kernel
  exact hall ⟨a, by omega⟩ ⟨b, by omega⟩

end Format

section Writing
variable {buffer : OutputBuffer}

/-- What a step of the encoder does to the output, if it has room for it. -/
structure Writes (buffer : OutputBuffer) (write : Bytes → Except Lz4BlockEncodeError Bytes)
    (data : Bytes) : Prop where
  ok_of_fits : ∀ output, output.length + data.length ≤ buffer.capacity →
    write output = .ok (output ++ data)
  eq_of_ok : ∀ output result, write output = .ok result → result = output ++ data
  le_of_ok : ∀ output result, write output = .ok result → output.length ≤ buffer.capacity →
    result.length ≤ buffer.capacity

theorem Writes.append (data : Bytes) : Writes buffer (buffer.append · data) data where
  ok_of_fits output h := by rw [OutputBuffer.append, require_of h, ok_bind]
  eq_of_ok output result h := by
    simp only [OutputBuffer.append, bind_eq_ok, require_eq_ok, exists_const,
      Except.ok.injEq] at h
    exact h.2.symm
  le_of_ok output result h _ := by
    simp only [OutputBuffer.append, bind_eq_ok, require_eq_ok, exists_const,
      Except.ok.injEq] at h
    rw [← h.2, List.length_append]
    exact h.1

theorem Writes.nil : Writes buffer .ok [] where
  ok_of_fits output _ := by rw [List.append_nil]
  eq_of_ok output result h := by
    cases h
    exact (List.append_nil _).symm
  le_of_ok output result h hle := by
    cases h
    exact hle

theorem Writes.bind {first second : Bytes → Except Lz4BlockEncodeError Bytes}
    {data data' : Bytes} (hfirst : Writes buffer first data)
    (hsecond : Writes buffer second data') :
    Writes buffer (fun output => first output >>= second) (data ++ data') where
  ok_of_fits output h := by
    rw [List.length_append] at h
    rw [hfirst.ok_of_fits output (by omega), ok_bind,
      hsecond.ok_of_fits _ (by rw [List.length_append]; omega), List.append_assoc]
  eq_of_ok output result h := by
    obtain ⟨middle, hm, hr⟩ := bind_eq_ok.mp h
    rw [hsecond.eq_of_ok _ _ hr, hfirst.eq_of_ok _ _ hm, List.append_assoc]
  le_of_ok output result h hle := by
    obtain ⟨middle, hm, hr⟩ := bind_eq_ok.mp h
    exact hsecond.le_of_ok _ _ hr (hfirst.le_of_ok _ _ hm hle)

theorem writes_remainder (remainder : Nat) :
    Writes buffer (buffer.writeRemainder · remainder) (remainderBytes remainder) := by
  induction remainder using Nat.strongRecOn with
  | _ remainder ih =>
      rcases Nat.lt_or_ge remainder 255 with hlt | hle
      · have he : (buffer.writeRemainder · remainder) = (buffer.writeByte · remainder) := by
          funext output
          rw [OutputBuffer.writeRemainder, if_neg (by omega)]
        rw [he, remainderBytes_of_lt hlt]
        exact Writes.append _
      · have he : (buffer.writeRemainder · remainder) = fun output =>
            buffer.writeByte output 0xff >>= (buffer.writeRemainder · (remainder - 0xff)) := by
          funext output
          rw [OutputBuffer.writeRemainder, if_pos (by omega)]
        rw [he, remainderBytes_of_le hle]
        exact (Writes.append [0xff]).bind (ih (remainder - 255) (by omega))

theorem writes_extendedLength (length : Nat) :
    Writes buffer (buffer.writeExtendedLength · length) (extension length) := by
  unfold OutputBuffer.writeExtendedLength extension
  split
  · exact Writes.nil
  · exact writes_remainder _

theorem writes_sequence {source : Bytes} {anchor position : Nat} (distance matchLength : Nat)
    (ha : anchor ≤ position) (hp : position ≤ source.length) :
    Writes buffer (writeSequence source buffer · anchor position distance matchLength)
      (sequenceBytes (Bytes.slice source anchor (position - anchor)) distance matchLength) := by
  have hlength : (Bytes.slice source anchor (position - anchor)).length = position - anchor :=
    Bytes.length_slice (by omega)
  simp only [sequenceBytes, hlength, List.append_assoc]
  exact (Writes.append _).bind ((writes_extendedLength _).bind ((Writes.append _).bind
    ((Writes.append _).bind (writes_extendedLength _))))

/-- The literals behind the last sequence. -/
theorem writes_last (source : Bytes) (anchor : Nat) :
    Writes buffer (fun output =>
        buffer.writeByte output ((min (source.length - anchor) 15) <<< 4) >>= fun output =>
          buffer.writeExtendedLength output (source.length - anchor) >>= fun output =>
            buffer.writeSource output source anchor (source.length - anchor))
      (lastBytes (source.drop anchor)) := by
  have hslice : Bytes.slice source anchor (source.length - anchor) = source.drop anchor := by
    rw [Bytes.slice, ← List.length_drop, List.take_length]
  have htoken : (min (source.length - anchor) 15) <<< 4 =
      (min (source.length - anchor) 15) <<< 4 ||| min 0 15 := by
    rw [Nat.zero_min, Nat.or_zero]
  rw [htoken]
  simp only [lastBytes, token, List.length_drop, OutputBuffer.writeSource, hslice]
  exact (Writes.append _).bind ((writes_extendedLength _).bind (Writes.append _))

end Writing

section Reading
variable {maxOutputLength : Int} {kind : String}

theorem readExtension_full {base : Nat} {rest : Bytes}
    (h : ((base + 255 : Nat) : Int) ≤ maxOutputLength) :
    readExtension maxOutputLength kind base (0xff :: rest) =
      readExtension maxOutputLength kind (base + 255) rest := by
  have hbyte : (0xff : UInt8).toNat = 255 := by decide
  rw [readExtension, hbyte, if_neg (not_lt.mpr h), if_neg (not_not.mpr rfl)]

theorem readExtension_lower {base remainder : Nat} {rest : Bytes} (hr : remainder < 255)
    (h : ((base + remainder : Nat) : Int) ≤ maxOutputLength) :
    readExtension maxOutputLength kind base (UInt8.ofNat remainder :: rest) =
      .ok (base + remainder, rest) := by
  have hbyte : (UInt8.ofNat remainder).toNat = remainder := by
    rw [UInt8.toNat_ofNat']
    exact Nat.mod_eq_of_lt (by omega)
  have hne : UInt8.ofNat remainder ≠ 0xff := by
    intro he
    have hvalue := congrArg UInt8.toNat he
    have hfull : (0xff : UInt8).toNat = 255 := by decide
    omega
  rw [readExtension, hbyte, if_neg (not_lt.mpr h), if_pos hne]

theorem readExtension_remainderBytes {base remainder : Nat} (rest : Bytes)
    (h : ((base + remainder : Nat) : Int) ≤ maxOutputLength) :
    readExtension maxOutputLength kind base (remainderBytes remainder ++ rest) =
      .ok (base + remainder, rest) := by
  induction remainder using Nat.strongRecOn generalizing base with
  | _ remainder ih =>
      rcases Nat.lt_or_ge remainder 255 with hlt | hle
      · rw [remainderBytes_of_lt hlt]
        exact readExtension_lower hlt h
      · have he : base + 255 + (remainder - 255) = base + remainder := by omega
        rw [remainderBytes_of_le hle, List.cons_append, readExtension_full (by omega),
          ih (remainder - 255) (by omega) (by omega), he]

theorem readExtendedLength_extension {length : Nat} (rest : Bytes)
    (h : (length : Int) ≤ maxOutputLength) :
    readExtendedLength maxOutputLength (min length 15) kind (extension length ++ rest) =
      .ok (length, rest) := by
  unfold readExtendedLength extension
  rcases Nat.lt_or_ge length 15 with hlt | hle
  · rw [Nat.min_eq_left hlt.le, if_pos (by omega), if_pos hlt]
    rfl
  · have he : 15 + (length - 15) = length := by omega
    rw [Nat.min_eq_right hle, if_neg (not_not.mpr rfl), if_neg (by omega),
      readExtension_remainderBytes rest (by rw [he]; exact h), he]

variable {outputLength fuel : Nat} {output literals : Bytes}

/-- A sequence in front of others. -/
theorem decode_sequenceBytes {distance matchLength : Nat} (rest : Bytes)
    (hd : 1 ≤ distance ∧ distance ≤ output.length + literals.length ∧ distance ≤ 0xffff)
    (hm : 4 ≤ matchLength)
    (hl : output.length + literals.length + matchLength ≤ outputLength)
    (hmax : (outputLength : Int) ≤ maxOutputLength) :
    decodeSequences outputLength maxOutputLength (fuel + 1)
        (sequenceBytes literals distance matchLength ++ rest) output =
      decodeSequences outputLength maxOutputLength fuel rest
        (copy (output ++ literals) distance matchLength) := by
  obtain ⟨hhigh, hlow⟩ := token_halves (Nat.min_le_right literals.length 15)
    (Nat.min_le_right (matchLength - 4) 15)
  have hoffset : (Bytes.bigEndian 2 distance).reverse.length = 2 := by simp
  have hread : readUInt16LE ((Bytes.bigEndian 2 distance).reverse ++
      (extension (matchLength - 4) ++ rest)) = distance := by
    rw [readUInt16LE, List.take_left' hoffset, List.reverse_reverse, Bytes.number_bigEndian]
    omega
  rw [sequenceBytes, List.cons_append, decodeSequences]
  simp only [token, hhigh, List.append_assoc]
  rw [readExtendedLength_extension _ (by omega)]
  simp only [ok_bind]
  rw [require_of (by simp only [List.length_append]; omega), ok_bind, require_of (by omega),
    ok_bind, List.take_left, List.drop_left, if_neg (by simp [Bytes.bigEndian]), require_of
      (by simp only [List.length_append, hoffset]; omega), ok_bind, hread, require_of
      (by rw [List.length_append]; omega), ok_bind, List.drop_left' hoffset, hlow,
    readExtendedLength_extension _ (by omega)]
  simp only [ok_bind]
  rw [require_of (by rw [List.length_append]; omega), ok_bind, Nat.sub_add_cancel hm]

/-- The last sequence of a block. -/
theorem decode_lastBytes (hl : output.length + literals.length ≤ outputLength)
    (hmax : (outputLength : Int) ≤ maxOutputLength) :
    decodeSequences outputLength maxOutputLength (fuel + 1) (lastBytes literals) output =
      .ok (output ++ literals) := by
  obtain ⟨hhigh, -⟩ := token_halves (Nat.min_le_right literals.length 15)
    (Nat.min_le_right 0 15)
  rw [lastBytes, decodeSequences]
  simp only [token, hhigh]
  rw [readExtendedLength_extension _ (by omega)]
  simp only [ok_bind]
  rw [require_of le_rfl, ok_bind, require_of hl, ok_bind, List.take_length, List.drop_length,
    if_pos rfl]

end Reading
end OpenRfc.Lz4
