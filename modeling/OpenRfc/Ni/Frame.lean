import OpenRfc.Foundation.Bytes
import OpenRfc.Foundation.Streams

/-!
Records of the network interface layer: a length of four bytes and a payload. The decoder
keeps the chunks which have arrived in a queue and reads across their boundaries; what it
returns are the complete records of the stream.
-/

namespace OpenRfc.Ni

def niLengthBytes : Nat := 4

def encodeNiFrame (payload : Bytes) : Except String Bytes :=
  if payload.length > 0xffff_ffff then
    .error "an NI payload cannot exceed the unsigned 32-bit length field"
  else .ok (Bytes.bigEndian niLengthBytes payload.length ++ payload)

structure NiFrameDecoder where
  chunks : List Bytes
  headIndex : Nat
  headOffset : Nat
  bufferedByteLength : Nat
deriving DecidableEq, Repr

namespace NiFrameDecoder

def empty : NiFrameDecoder := ⟨[], 0, 0, 0⟩

/-- The bytes at the head of the queue as a number, `remaining` of them, behind a value. -/
def peekFrom : List Bytes → Nat → Nat → Nat → Except String Nat
  | _, _, 0, value => .ok value
  | [], _, _ + 1, _ => .error "NI decoder queue is inconsistent"
  | current :: chunks, offset, remaining + 1, value =>
    let take := min (remaining + 1) (current.length - offset)
    let value := (Bytes.slice current offset take).foldl
      (fun value byte => value * 256 + byte.toNat) value
    peekFrom chunks 0 (remaining + 1 - take) value

def peekUInt32BE (d : NiFrameDecoder) : Except String Nat :=
  peekFrom (d.chunks.drop d.headIndex) d.headOffset niLengthBytes 0

/-- Copy bytes from the head of the queue, and move the head behind them. -/
def copyFrom : List Bytes → Nat → Nat → Nat → Except String (Bytes × Nat × Nat)
  | _, headIndex, headOffset, 0 => .ok ([], headIndex, headOffset)
  | [], _, _, _ + 1 => .error "NI decoder queue is inconsistent"
  | current :: chunks, headIndex, headOffset, length + 1 =>
    let take := min (length + 1) (current.length - headOffset)
    let copied := Bytes.slice current headOffset take
    if headOffset + take = current.length then do
      let (result, head) ← copyFrom chunks (headIndex + 1) 0 (length + 1 - take)
      .ok (copied ++ result, head)
    else .ok (copied, headIndex, headOffset + take)

def compactQueue (d : NiFrameDecoder) : NiFrameDecoder :=
  if d.headIndex = d.chunks.length then { d with chunks := [], headIndex := 0 }
  else if d.headIndex ≥ 64 ∧ d.headIndex * 2 ≥ d.chunks.length then
    { d with chunks := d.chunks.drop d.headIndex, headIndex := 0 }
  else d

def consume (d : NiFrameDecoder) (length : Nat) : Except String (Bytes × NiFrameDecoder) :=
  if length > d.bufferedByteLength then
    .error "NI decoder attempted to consume beyond its queue"
  else do
    let (result, headIndex, headOffset) ←
      copyFrom (d.chunks.drop d.headIndex) d.headIndex d.headOffset length
    let bufferedByteLength := d.bufferedByteLength - length
    .ok (result, compactQueue { d with headIndex, headOffset, bufferedByteLength })

/-- The loop of `push`. Every round consumes four bytes at least, so that the number of
bytes which are buffered bounds the rounds. -/
def decode (maxPayloadLength : Nat) :
    Nat → NiFrameDecoder → List Bytes → Except String (List Bytes × NiFrameDecoder)
  | 0, d, payloads => .ok (payloads, d)
  | fuel + 1, d, payloads =>
    if d.bufferedByteLength ≥ niLengthBytes then do
      let payloadLength ← d.peekUInt32BE
      if payloadLength > maxPayloadLength then
        .error
          s!"NI payload length {payloadLength} exceeds configured limit {maxPayloadLength}"
      else if d.bufferedByteLength < niLengthBytes + payloadLength then .ok (payloads, d)
      else do
        let (_, d) ← d.consume niLengthBytes
        let (payload, d) ← d.consume payloadLength
        decode maxPayloadLength fuel d (payloads ++ [payload])
    else .ok (payloads, d)

def push (maxPayloadLength : Nat) (d : NiFrameDecoder) (chunk : Bytes) :
    Except String (List Bytes × NiFrameDecoder) :=
  let d := if chunk.length > 0 then
      { d with
        chunks := d.chunks ++ [chunk]
        bufferedByteLength := d.bufferedByteLength + chunk.length }
    else d
  decode maxPayloadLength d.bufferedByteLength d []

def finish (d : NiFrameDecoder) : Except String Unit :=
  if d.bufferedByteLength ≠ 0 then
    .error s!"truncated NI stream: {d.bufferedByteLength} bytes remain"
  else .ok ()

def reset (_ : NiFrameDecoder) : NiFrameDecoder := empty

end NiFrameDecoder

section Records

/-- One complete record at the front of a stream. -/
def record (stream : Bytes) : Option (Bytes × Bytes) :=
  let size := Bytes.number (stream.take niLengthBytes)
  if niLengthBytes + size ≤ stream.length then
    some (Bytes.slice stream niLengthBytes size, stream.drop (niLengthBytes + size))
  else none

theorem record_eq_some {stream payload rest : Bytes} :
    record stream = some (payload, rest) ↔
      ∃ header, header.length = niLengthBytes ∧ Bytes.number header = payload.length ∧
        stream = header ++ payload ++ rest := by
  unfold record
  dsimp only
  constructor
  · intro h
    split at h
    · rename_i hl
      cases h
      refine ⟨stream.take niLengthBytes, ?_, ?_, ?_⟩
      · rw [List.length_take]
        omega
      · rw [Bytes.slice, List.length_take, List.length_drop]
        omega
      · rw [Bytes.slice, ← List.drop_drop, List.append_assoc, List.take_append_drop,
          List.take_append_drop]
    · cases h
  · rintro ⟨header, hl, hn, rfl⟩
    have ht : (header ++ payload ++ rest).take niLengthBytes = header := by
      rw [← hl, List.append_assoc, List.take_left]
    have hs : Bytes.slice (header ++ payload ++ rest) niLengthBytes payload.length = payload :=
      Bytes.slice_append header payload rest hl.symm rfl
    have hd : (header ++ payload ++ rest).drop (niLengthBytes + payload.length) = rest := by
      rw [← hl, ← List.length_append, List.drop_left]
    rw [ht, hn, if_pos, hs, hd]
    simp only [List.length_append]
    omega

/-- The records of a stream, one after the other. -/
def records : Incremental (List Bytes) UInt8 where
  step frames stream := (record stream).map fun x => (frames ++ [x.1], x.2)
  rank _ := 0
  stable ys h := by
    obtain ⟨⟨payload, rest⟩, hr, he⟩ := Option.map_eq_some_iff.mp h
    cases he
    obtain ⟨header, hl, hn, rfl⟩ := record_eq_some.mp hr
    refine Option.map_eq_some_iff.mpr ⟨(payload, rest ++ ys), ?_, rfl⟩
    exact record_eq_some.mpr ⟨header, hl, hn, by simp only [List.append_assoc]⟩
  shrinks h := by
    obtain ⟨⟨payload, rest⟩, hr, he⟩ := Option.map_eq_some_iff.mp h
    cases he
    obtain ⟨header, hl, hn, rfl⟩ := record_eq_some.mp hr
    simp only [List.length_append, niLengthBytes] at hl ⊢
    omega

/-- The payloads of the complete records of a stream. -/
def completeFrames (stream : Bytes) : List Bytes := (records.drive [] stream).1

/-- What follows the last complete record. -/
def leftover (stream : Bytes) : Bytes := (records.drive [] stream).2

theorem records_step {frames : List Bytes} {stream payload rest : Bytes}
    (h : record stream = some (payload, rest)) :
    records.step frames stream = some (frames ++ [payload], rest) := by
  simp only [records, h, Option.map_some]

theorem records_step_none {frames : List Bytes} {stream : Bytes} (h : record stream = none) :
    records.step frames stream = none := by
  simp only [records, h, Option.map_none]

theorem records_step_append (before frames : List Bytes) (stream : Bytes) :
    records.step (before ++ frames) stream =
      (records.step frames stream).map fun x => (before ++ x.1, x.2) := by
  cases hr : record stream with
  | none => rw [records_step_none hr, records_step_none hr, Option.map_none]
  | some x => rw [records_step hr, records_step hr, Option.map_some, List.append_assoc]

/-- Records are appended to those which have been read before. -/
theorem drive_records (frames : List Bytes) (stream : Bytes) :
    records.drive frames stream = (frames ++ completeFrames stream, leftover stream) := by
  have h := records.drive_map (records_step_append frames) [] stream
  rw [List.append_nil] at h
  exact h

theorem completeFrames_append (xs ys : Bytes) :
    completeFrames (xs ++ ys) = completeFrames xs ++ completeFrames (leftover xs ++ ys) := by
  have h := congrArg Prod.fst (records.drive_append [] xs ys)
  rw [drive_records (records.drive [] xs).1] at h
  exact h

theorem leftover_append (xs ys : Bytes) :
    leftover (xs ++ ys) = leftover (leftover xs ++ ys) := by
  have h := congrArg Prod.snd (records.drive_append [] xs ys)
  rw [drive_records (records.drive [] xs).1] at h
  exact h

@[simp] theorem completeFrames_nil : completeFrames [] = [] := by
  rw [completeFrames, records.drive_of_none (records_step_none rfl)]

@[simp] theorem leftover_nil : leftover [] = [] := by
  rw [leftover, records.drive_of_none (records_step_none rfl)]

/-- What has been encoded is read again. -/
theorem record_encode {payload frame : Bytes} (h : encodeNiFrame payload = .ok frame)
    (stream : Bytes) : record (frame ++ stream) = some (payload, stream) := by
  unfold encodeNiFrame at h
  split at h
  · cases h
  · cases h
    refine record_eq_some.mpr ⟨_, Bytes.length_bigEndian _ _, ?_, rfl⟩
    apply Bytes.number_bigEndian
    simp only [niLengthBytes]
    omega

end Records

section Bounded

/-- A header which declares more than `maxPayloadLength` is at the front of a stream. -/
def Exceeds (maxPayloadLength : Nat) (stream : Bytes) : Prop :=
  niLengthBytes ≤ stream.length ∧
    maxPayloadLength < Bytes.number (stream.take niLengthBytes)

instance (maxPayloadLength : Nat) (stream : Bytes) :
    Decidable (Exceeds maxPayloadLength stream) :=
  inferInstanceAs (Decidable (_ ∧ _))

/-- The records of a stream up to the first header which declares too much. -/
def boundedRecords (maxPayloadLength : Nat) : Incremental (List Bytes) UInt8 where
  step frames stream :=
    if Exceeds maxPayloadLength stream then none else records.step frames stream
  rank _ := 0
  stable ys h := by
    split at h
    · cases h
    · rename_i stream _ hn
      obtain ⟨⟨payload, rest⟩, hr, -⟩ := Option.map_eq_some_iff.mp h
      obtain ⟨header, hl, -, hs⟩ := record_eq_some.mp hr
      have hlen : niLengthBytes ≤ stream.length := by
        rw [hs]
        simp only [List.length_append]
        omega
      rw [if_neg, records.stable ys h]
      rintro ⟨-, hx⟩
      apply hn
      rw [List.take_append_of_le_length hlen] at hx
      exact ⟨hlen, hx⟩
  shrinks h := by
    split at h
    · cases h
    · exact records.shrinks h

variable {maxPayloadLength : Nat}

theorem boundedRecords_exceeds {frames : List Bytes} {stream : Bytes}
    (h : Exceeds maxPayloadLength stream) :
    (boundedRecords maxPayloadLength).drive frames stream = (frames, stream) := by
  apply Incremental.drive_of_none
  simp only [boundedRecords, if_pos h]

theorem boundedRecords_wait {frames : List Bytes} {stream : Bytes}
    (h : record stream = none) :
    (boundedRecords maxPayloadLength).drive frames stream = (frames, stream) := by
  apply Incremental.drive_of_none
  simp only [boundedRecords, records_step_none h, ite_self]

theorem boundedRecords_read {frames : List Bytes} {stream payload rest : Bytes}
    (hn : ¬ Exceeds maxPayloadLength stream) (h : record stream = some (payload, rest)) :
    (boundedRecords maxPayloadLength).drive frames stream =
      (boundedRecords maxPayloadLength).drive (frames ++ [payload]) rest := by
  apply Incremental.drive_of_some
  simp only [boundedRecords, if_neg hn, records_step h]

theorem boundedRecords_append (frames : List Bytes) (stream : Bytes) :
    (boundedRecords maxPayloadLength).drive frames stream =
      (frames ++ ((boundedRecords maxPayloadLength).drive [] stream).1,
        ((boundedRecords maxPayloadLength).drive [] stream).2) := by
  have h := (boundedRecords maxPayloadLength).drive_map (f := (frames ++ ·)) ?_ [] stream
  · rw [List.append_nil] at h
    exact h
  · intro later stream
    simp only [boundedRecords]
    split
    · rfl
    · exact records_step_append frames later stream

/-- Without a header which declares too much, these are all the records. -/
theorem drive_boundedRecords {frames : List Bytes} {stream : Bytes}
    (h : ¬ Exceeds maxPayloadLength
      ((boundedRecords maxPayloadLength).drive frames stream).2) :
    (boundedRecords maxPayloadLength).drive frames stream = records.drive frames stream := by
  induction frames, stream using records.drive_induct with
  | wait frames stream hs =>
      have hr : record stream = none := by simpa [records] using hs
      rw [boundedRecords_wait hr, records.drive_of_none hs]
  | read frames stream frames' rest hs ih =>
      by_cases hx : Exceeds maxPayloadLength stream
      · rw [boundedRecords_exceeds hx] at h
        exact absurd hx h
      · obtain ⟨⟨payload, rest'⟩, hr, he⟩ := Option.map_eq_some_iff.mp hs
        cases he
        rw [boundedRecords_read hx hr] at h ⊢
        rw [records.drive_of_some hs]
        exact ih h

end Bounded
end OpenRfc.Ni
