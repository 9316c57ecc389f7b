import OpenRfc.Ni.Frame

/-!
The queue of a decoder holds the bytes which follow the records it has returned. A push
returns the records which its chunk completes, or fails because one of them is too long.
-/

namespace OpenRfc.Ni.NiFrameDecoder

/-- The bytes of a queue behind its head. -/
def remaining (d : NiFrameDecoder) : Bytes :=
  (d.chunks.drop d.headIndex).flatten.drop d.headOffset

/-- The head is inside the first chunk, and no later chunk is empty. -/
def Headed : List Bytes → Nat → Prop
  | [], offset => offset = 0
  | current :: chunks, offset => offset < current.length ∧ ∀ c ∈ chunks, c ≠ []

structure WellFormed (d : NiFrameDecoder) : Prop where
  buffered : d.bufferedByteLength = d.remaining.length
  index : d.headIndex ≤ d.chunks.length
  headed : Headed (d.chunks.drop d.headIndex) d.headOffset

theorem WellFormed.empty : WellFormed empty := ⟨rfl, Nat.le_refl 0, rfl⟩

theorem headed_zero {chunks : List Bytes} (h : ∀ c ∈ chunks, c ≠ []) : Headed chunks 0 := by
  cases chunks with
  | nil => rfl
  | cons current chunks =>
      refine ⟨List.length_pos_iff.mpr (h current List.mem_cons_self), ?_⟩
      exact fun c hc => h c (List.mem_cons_of_mem current hc)

theorem drop_flatten {current : Bytes} {chunks : List Bytes} {offset : Nat}
    (h : offset ≤ current.length) :
    (current :: chunks).flatten.drop offset = current.drop offset ++ chunks.flatten := by
  rw [List.flatten_cons, List.drop_append_of_le_length h]

/-- Reading ahead, across the boundaries of the chunks. -/
theorem peekFrom_eq {chunks : List Bytes} {offset remaining : Nat} (value : Nat)
    (h : Headed chunks offset) (hr : remaining ≤ (chunks.flatten.drop offset).length) :
    peekFrom chunks offset remaining value =
      .ok (((chunks.flatten.drop offset).take remaining).foldl
        (fun value byte => value * 256 + byte.toNat) value) := by
  induction chunks generalizing offset remaining value with
  | nil =>
      cases remaining with
      | zero => rfl
      | succ remaining => simp at hr
  | cons current chunks ih =>
      obtain ⟨ho, hne⟩ := h
      cases remaining with
      | zero => rfl
      | succ remaining =>
          rw [drop_flatten ho.le] at hr ⊢
          simp only [peekFrom]
          rw [List.length_append, List.length_drop] at hr
          rw [ih _ (headed_zero hne) (by rw [List.drop_zero]; omega), List.drop_zero]
          rw [Bytes.slice, List.take_append, List.foldl_append, List.length_drop]
          rcases Nat.le_total (remaining + 1) (current.length - offset) with hle | hle
          · rw [Nat.min_eq_left hle, Nat.sub_self, Nat.sub_eq_zero_of_le hle]
          · have hd : (current.drop offset).length = current.length - offset := by
              rw [List.length_drop]
            rw [Nat.min_eq_right hle, List.take_of_length_le hd.le,
              List.take_of_length_le (hd.trans_le hle)]

/-- Copying moves the head behind what has been copied. -/
theorem copyFrom_eq {chunks : List Bytes} {offset length : Nat} (index : Nat)
    (h : Headed chunks offset) (hl : length ≤ (chunks.flatten.drop offset).length) :
    ∃ k offset', copyFrom chunks index offset length =
        .ok ((chunks.flatten.drop offset).take length, index + k, offset') ∧
      k ≤ chunks.length ∧ Headed (chunks.drop k) offset' ∧
      (chunks.drop k).flatten.drop offset' = (chunks.flatten.drop offset).drop length := by
  induction chunks generalizing offset length index with
  | nil =>
      cases length with
      | zero => exact ⟨0, offset, rfl, Nat.le_refl 0, h, rfl⟩
      | succ length => simp at hl
  | cons current chunks ih =>
      obtain ⟨ho, hne⟩ := h
      cases length with
      | zero => exact ⟨0, offset, rfl, Nat.zero_le _, ⟨ho, hne⟩, rfl⟩
      | succ length =>
          rw [drop_flatten ho.le] at hl ⊢
          rw [List.length_append, List.length_drop] at hl
          have hd : (current.drop offset).length = current.length - offset := List.length_drop
          simp only [copyFrom]
          rcases Nat.lt_or_ge (length + 1) (current.length - offset) with hlt | hge
          · -- The copy ends inside the first chunk.
            rw [Nat.min_eq_left hlt.le, if_neg (by omega)]
            refine ⟨0, offset + (length + 1), ?_, Nat.zero_le _, ⟨by omega, hne⟩, ?_⟩
            · rw [Bytes.slice, List.take_append_of_le_length (by omega)]
              rfl
            · rw [List.drop_zero, drop_flatten (by omega),
                List.drop_append_of_le_length (by omega), List.drop_drop]
          · rw [Nat.min_eq_right hge, if_pos (by omega)]
            obtain ⟨k, offset', hcopy, hk, hhead, hrest⟩ :=
              @ih 0 (length + 1 - (current.length - offset)) (index + 1)
                (headed_zero hne) (by rw [List.drop_zero]; omega)
            refine ⟨k + 1, offset', ?_, Nat.succ_le_succ hk, hhead, ?_⟩
            · rw [hcopy, Fallible.ok_bind, List.drop_zero, Bytes.slice,
                List.take_of_length_le hd.le, List.take_append, hd,
                List.take_of_length_le (hd.trans_le hge)]
              rw [Nat.add_assoc, Nat.add_comm 1 k]
            · rw [List.drop_succ_cons, hrest, List.drop_zero, List.drop_append, hd,
                List.drop_of_length_le (hd.trans_le hge), List.nil_append]

theorem compactQueue_eq {d : NiFrameDecoder} (h : WellFormed d) :
    WellFormed d.compactQueue ∧ d.compactQueue.remaining = d.remaining := by
  unfold compactQueue
  split
  · rename_i hi
    have hd : d.chunks.drop d.headIndex = [] := List.drop_eq_nil_of_le hi.ge
    have ho := h.headed
    rw [hd] at ho
    have hr : d.remaining = [] := by rw [remaining, hd, List.flatten_nil, List.drop_nil]
    have hb := h.buffered
    rw [hr] at hb
    refine ⟨⟨?_, Nat.le_refl 0, ho⟩, ?_⟩
    · simpa [remaining] using hb
    · rw [hr]
      simp [remaining]
  · split
    · have hr : remaining { d with chunks := d.chunks.drop d.headIndex, headIndex := 0 } =
          d.remaining := rfl
      refine ⟨⟨?_, Nat.zero_le _, h.headed⟩, hr⟩
      rw [hr]
      exact h.buffered
    · exact ⟨h, rfl⟩

theorem consume_eq {d : NiFrameDecoder} (h : WellFormed d) {length : Nat}
    (hl : length ≤ d.remaining.length) :
    ∃ d', d.consume length = .ok (d.remaining.take length, d') ∧ WellFormed d' ∧
      d'.remaining = d.remaining.drop length := by
  obtain ⟨k, offset, hcopy, hk, hhead, hrest⟩ := copyFrom_eq d.headIndex h.headed hl
  rw [List.drop_drop] at hhead hrest
  rw [List.length_drop] at hk
  have hindex := h.index
  let moved : NiFrameDecoder := {
    d with
    headIndex := d.headIndex + k
    headOffset := offset
    bufferedByteLength := d.bufferedByteLength - length }
  have hr : moved.remaining = d.remaining.drop length := hrest
  have hwf : WellFormed moved := by
    refine ⟨?_, by change d.headIndex + k ≤ d.chunks.length; omega, hhead⟩
    rw [hr, List.length_drop, ← h.buffered]
  obtain ⟨hc, hcr⟩ := compactQueue_eq hwf
  refine ⟨moved.compactQueue, ?_, hc, hcr.trans hr⟩
  rw [consume, if_neg (by rw [h.buffered]; omega), hcopy]
  rfl

theorem peekUInt32BE_eq {d : NiFrameDecoder} (h : WellFormed d)
    (hl : niLengthBytes ≤ d.remaining.length) :
    d.peekUInt32BE = .ok (Bytes.number (d.remaining.take niLengthBytes)) :=
  peekFrom_eq 0 h.headed hl

/-- The loop of a push returns the records of the queue, or stops at a header which declares
too much. -/
theorem decode_spec {maxPayloadLength fuel : Nat} {d : NiFrameDecoder} (h : WellFormed d)
    (hf : d.remaining.length ≤ fuel) (frames : List Bytes) :
    (∃ error, decode maxPayloadLength fuel d frames = .error error ∧
      Exceeds maxPayloadLength
        ((boundedRecords maxPayloadLength).drive frames d.remaining).2) ∨
    ∃ d', decode maxPayloadLength fuel d frames =
        .ok (((boundedRecords maxPayloadLength).drive frames d.remaining).1, d') ∧
      WellFormed d' ∧
      d'.remaining = ((boundedRecords maxPayloadLength).drive frames d.remaining).2 ∧
      ¬ Exceeds maxPayloadLength d'.remaining := by
  induction fuel generalizing d frames with
  | zero =>
      have hr : d.remaining = [] := List.length_eq_zero_iff.mp (Nat.le_zero.mp hf)
      rw [boundedRecords_wait (by rw [hr]; rfl)]
      refine .inr ⟨d, rfl, h, rfl, fun hx => ?_⟩
      have hl := hx.1
      rw [hr] at hl
      cases hl
  | succ fuel ih =>
      rw [decode, h.buffered]
      split
      · rename_i hl
        rw [peekUInt32BE_eq h hl, Fallible.ok_bind]
        split
        · rename_i hx
          have hexceeds : Exceeds maxPayloadLength d.remaining := ⟨hl, hx⟩
          rw [boundedRecords_exceeds hexceeds]
          exact .inl ⟨_, rfl, hexceeds⟩
        · rename_i hfits
          have hn : ¬ Exceeds maxPayloadLength d.remaining := fun hx => hfits hx.2
          split
          · rename_i hshort
            rw [boundedRecords_wait (by rw [record]; exact if_neg (by omega))]
            exact .inr ⟨d, rfl, h, rfl, hn⟩
          · rename_i hlong
            obtain ⟨d1, hc1, h1, hr1⟩ := consume_eq h hl
            rw [hc1, Fallible.ok_bind]
            have hl1 : Bytes.number (d.remaining.take niLengthBytes) ≤ d1.remaining.length := by
              rw [hr1, List.length_drop]
              omega
            obtain ⟨d2, hc2, h2, hr2⟩ := consume_eq h1 hl1
            dsimp only
            rw [hc2, Fallible.ok_bind]
            have hrec : record d.remaining = some
                (d1.remaining.take (Bytes.number (d.remaining.take niLengthBytes)),
                  d2.remaining) := by
              rw [record, if_pos (by omega), hr2, hr1, List.drop_drop]
              rfl
            rw [boundedRecords_read hn hrec]
            apply ih h2
            rw [hr2, hr1, List.drop_drop, List.length_drop]
            simp only [niLengthBytes] at hl ⊢
            omega
      · rename_i hl
        rw [boundedRecords_wait (by rw [record]; exact if_neg (by omega))]
        exact .inr ⟨d, rfl, h, rfl, fun hx => hl hx.1⟩

/-- What the loop of a push returns are the complete records of the queue. -/
theorem decode_eq {maxPayloadLength fuel : Nat} {d : NiFrameDecoder} (h : WellFormed d)
    (hf : d.remaining.length ≤ fuel) {frames payloads : List Bytes} {d' : NiFrameDecoder}
    (hd : decode maxPayloadLength fuel d frames = .ok (payloads, d')) :
    WellFormed d' ∧ records.drive frames d.remaining = (payloads, d'.remaining) := by
  obtain ⟨error, he, -⟩ | ⟨d'', ho, h', hr, hn⟩ := decode_spec h hf frames
  · cases he.symm.trans hd
  · cases ho.symm.trans hd
    rw [hr] at hn
    refine ⟨h', ?_⟩
    rw [← drive_boundedRecords hn, hr]

/-- A chunk is appended to what remains. -/
theorem push_remaining {d : NiFrameDecoder} (h : WellFormed d) (chunk : Bytes) :
    ∃ d1 : NiFrameDecoder, WellFormed d1 ∧ d1.remaining = d.remaining ++ chunk ∧
      ∀ maxPayloadLength, d.push maxPayloadLength chunk =
        decode maxPayloadLength d1.bufferedByteLength d1 [] := by
  cases chunk with
  | nil => exact ⟨d, h, (List.append_nil _).symm, fun _ => rfl⟩
  | cons byte chunk =>
      let pushed : NiFrameDecoder := {
        d with
        chunks := d.chunks ++ [byte :: chunk]
        bufferedByteLength := d.bufferedByteLength + (byte :: chunk).length }
      have hdrop : pushed.chunks.drop pushed.headIndex =
          d.chunks.drop d.headIndex ++ [byte :: chunk] :=
        List.drop_append_of_le_length h.index
      have hhead := h.headed
      have hr : pushed.remaining = d.remaining ++ byte :: chunk := by
        unfold remaining
        rw [hdrop, List.flatten_append, List.flatten_singleton]
        cases hc : d.chunks.drop d.headIndex with
        | nil =>
            rw [hc] at hhead
            have ho : d.headOffset = 0 := hhead
            change List.drop d.headOffset _ = _
            rw [ho]
            rfl
        | cons current chunks =>
            rw [hc] at hhead
            apply List.drop_append_of_le_length
            rw [List.flatten_cons, List.length_append]
            have : d.headOffset < current.length := hhead.1
            change d.headOffset ≤ _
            omega
      refine ⟨pushed, ⟨?_, ?_, ?_⟩, hr, fun _ => rfl⟩
      · rw [hr, List.length_append, ← h.buffered]
      · change d.headIndex ≤ (d.chunks ++ [byte :: chunk]).length
        rw [List.length_append]
        exact h.index.trans (Nat.le_add_right _ _)
      · rw [hdrop]
        cases hc : d.chunks.drop d.headIndex with
        | nil =>
            rw [hc] at hhead
            have ho : d.headOffset = 0 := hhead
            refine ⟨?_, nofun⟩
            change d.headOffset < _
            rw [ho]
            exact Nat.succ_pos _
        | cons current chunks =>
            rw [hc] at hhead
            refine ⟨hhead.1, ?_⟩
            intro c hm
            rcases List.mem_append.mp hm with hm | hm
            · exact hhead.2 c hm
            · rw [List.mem_singleton.mp hm]
              exact List.cons_ne_nil byte chunk

/-- The specification of a push: the records which the chunk completes. -/
theorem push_eq {maxPayloadLength : Nat} {d d' : NiFrameDecoder} (h : WellFormed d)
    {chunk : Bytes} {payloads : List Bytes}
    (hp : d.push maxPayloadLength chunk = .ok (payloads, d')) :
    WellFormed d' ∧ completeFrames (d.remaining ++ chunk) = payloads ∧
      leftover (d.remaining ++ chunk) = d'.remaining := by
  obtain ⟨d1, h1, hr, hpush⟩ := push_remaining h chunk
  rw [hpush] at hp
  obtain ⟨h', hdrive⟩ := decode_eq h1 h1.buffered.ge hp
  rw [hr] at hdrive
  exact ⟨h', congrArg Prod.fst hdrive, congrArg Prod.snd hdrive⟩

end OpenRfc.Ni.NiFrameDecoder
