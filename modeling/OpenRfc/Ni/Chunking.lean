import OpenRfc.Ni.Decoder

/-!
A stream which is pushed chunk by chunk, up to the first push which throws. A push which
throws drops the payloads its loop has already taken off the queue, so that what a stream
delivers depends on its chunks only where a header which declares too much is completed by
the same chunk as a record before it.
-/

namespace OpenRfc.Ni

/-- The records of a stream before the first header which declares too much. -/
def admissibleFrames (maxPayloadLength : Nat) (stream : Bytes) : List Bytes :=
  ((boundedRecords maxPayloadLength).drive [] stream).1

/-- A header which declares too much has been received completely, and no record before it is
incomplete. -/
def Oversized (maxPayloadLength : Nat) (stream : Bytes) : Prop :=
  Exceeds maxPayloadLength ((boundedRecords maxPayloadLength).drive [] stream).2

variable {maxPayloadLength : Nat}

/-- Nothing is read behind a header which declares too much. -/
theorem Oversized.append {stream : Bytes} (h : Oversized maxPayloadLength stream)
    (more : Bytes) :
    Oversized maxPayloadLength (stream ++ more) ∧
      admissibleFrames maxPayloadLength (stream ++ more) =
        admissibleFrames maxPayloadLength stream := by
  obtain ⟨hl, hx⟩ := h
  have hmore : Exceeds maxPayloadLength
      (((boundedRecords maxPayloadLength).drive [] stream).2 ++ more) := by
    refine ⟨hl.trans ?_, ?_⟩
    · rw [List.length_append]
      exact Nat.le_add_right _ _
    · rw [List.take_append_of_le_length hl]
      exact hx
  unfold Oversized admissibleFrames
  rw [Incremental.drive_append, boundedRecords_exceeds hmore]
  exact ⟨hmore, rfl⟩

namespace NiFrameDecoder

/-- The payloads which pushes return up to the first one which throws. -/
def pushAll (maxPayloadLength : Nat) :
    NiFrameDecoder → List Bytes → List Bytes × Except String NiFrameDecoder
  | d, [] => ([], .ok d)
  | d, chunk :: chunks =>
    match d.push maxPayloadLength chunk with
    | .error error => ([], .error error)
    | .ok (payloads, d) =>
      let (later, last) := pushAll maxPayloadLength d chunks
      (payloads ++ later, last)

/-- Pushes depend on the stream alone: what they return and leave behind, and which of them
throws. -/
structure ChunkIndependent (maxPayloadLength : Nat) (chunks : List Bytes) : Prop where
  frames : (empty.pushAll maxPayloadLength chunks).1 =
    admissibleFrames maxPayloadLength chunks.flatten
  throws : ∀ before chunk after, chunks = before ++ chunk :: after →
    ∀ d, (empty.pushAll maxPayloadLength before).2 = .ok d →
      ((∃ error, d.push maxPayloadLength chunk = .error error) ↔
        Oversized maxPayloadLength (before.flatten ++ chunk))
  buffered : ∀ before after, chunks = before ++ after →
    ∀ d, (empty.pushAll maxPayloadLength before).2 = .ok d →
      d.bufferedByteLength = (leftover before.flatten).length ∧
        (d.finish = .ok () ↔ leftover before.flatten = [])

section Runs

/-- The queue of a decoder which has not thrown, behind a stream. -/
structure Behind (maxPayloadLength : Nat) (stream : Bytes) (d : NiFrameDecoder) : Prop where
  wellFormed : WellFormed d
  remaining : d.remaining = ((boundedRecords maxPayloadLength).drive [] stream).2
  admissible : ¬ Oversized maxPayloadLength stream

theorem Behind.empty : Behind maxPayloadLength [] empty := by
  have hd : (boundedRecords maxPayloadLength).drive [] [] = ([], []) :=
    boundedRecords_wait rfl
  refine ⟨.empty, ?_, ?_⟩
  · rw [hd]
    rfl
  · rw [Oversized, hd]
    exact fun h => absurd h.1 (by decide)

/-- A push behind a stream throws where its chunk completes a header which declares too much,
and otherwise returns the records it completes. -/
theorem Behind.push {stream : Bytes} {d : NiFrameDecoder} (h : Behind maxPayloadLength stream d)
    (chunk : Bytes) :
    (∃ error, d.push maxPayloadLength chunk = .error error ∧
      Oversized maxPayloadLength (stream ++ chunk)) ∨
    ∃ payloads d', d.push maxPayloadLength chunk = .ok (payloads, d') ∧
      Behind maxPayloadLength (stream ++ chunk) d' ∧
      admissibleFrames maxPayloadLength (stream ++ chunk) =
        admissibleFrames maxPayloadLength stream ++ payloads := by
  obtain ⟨d1, h1, hr, hpush⟩ := push_remaining h.wellFormed chunk
  have hdrive : (boundedRecords maxPayloadLength).drive [] (stream ++ chunk) =
      (admissibleFrames maxPayloadLength stream ++
          ((boundedRecords maxPayloadLength).drive [] d1.remaining).1,
        ((boundedRecords maxPayloadLength).drive [] d1.remaining).2) := by
    rw [Incremental.drive_append, ← h.remaining, ← hr, boundedRecords_append]
    rfl
  rw [hpush]
  obtain ⟨error, he, hx⟩ | ⟨d', ho, h', hr', hn⟩ := decode_spec h1 h1.buffered.ge []
  · refine .inl ⟨error, he, ?_⟩
    rw [Oversized, hdrive]
    exact hx
  · refine .inr ⟨_, d', ho, ⟨h', ?_, ?_⟩, ?_⟩
    · rw [hdrive]
      exact hr'
    · rw [Oversized, hdrive, ← hr']
      exact hn
    · rw [admissibleFrames, hdrive]

/-- A run of pushes which do not throw. -/
theorem Behind.pushAll {stream : Bytes} {d d' : NiFrameDecoder} {chunks : List Bytes}
    (h : Behind maxPayloadLength stream d)
    (hd : (d.pushAll maxPayloadLength chunks).2 = .ok d') :
    Behind maxPayloadLength (stream ++ chunks.flatten) d' ∧
      admissibleFrames maxPayloadLength (stream ++ chunks.flatten) =
        admissibleFrames maxPayloadLength stream ++ (d.pushAll maxPayloadLength chunks).1 := by
  induction chunks generalizing stream d with
  | nil =>
      cases hd
      simpa [NiFrameDecoder.pushAll] using h
  | cons chunk chunks ih =>
      rw [NiFrameDecoder.pushAll] at hd ⊢
      obtain ⟨error, he, -⟩ | ⟨payloads, d1, ho, h1, hframes⟩ := h.push chunk
      · rw [he] at hd
        cases hd
      · rw [ho] at hd ⊢
        obtain ⟨h', hlater⟩ := ih h1 hd
        rw [List.append_assoc] at h' hlater
        rw [hframes, List.append_assoc] at hlater
        exact ⟨h', hlater⟩

/-- What a run without a throw has returned. -/
theorem pushAll_frames {chunks : List Bytes} {d : NiFrameDecoder}
    (h : (empty.pushAll maxPayloadLength chunks).2 = .ok d) :
    (empty.pushAll maxPayloadLength chunks).1 =
      admissibleFrames maxPayloadLength chunks.flatten := by
  have hnil : admissibleFrames maxPayloadLength [] = [] :=
    congrArg Prod.fst (boundedRecords_wait rfl)
  have hframes := (Behind.empty.pushAll h).2
  rw [hnil, List.nil_append, List.nil_append] at hframes
  exact hframes.symm

/-- A run which throws has a first push which does. -/
theorem exists_throw {d : NiFrameDecoder} {chunks : List Bytes} {error : String}
    (h : (d.pushAll maxPayloadLength chunks).2 = .error error) :
    ∃ before chunk after d', chunks = before ++ chunk :: after ∧
      (d.pushAll maxPayloadLength before).2 = .ok d' ∧
      d'.push maxPayloadLength chunk = .error error := by
  induction chunks generalizing d with
  | nil => cases h
  | cons chunk chunks ih =>
      rw [pushAll] at h
      cases hp : d.push maxPayloadLength chunk with
      | error error' =>
          rw [hp] at h
          cases h
          exact ⟨[], chunk, chunks, d, rfl, rfl, hp⟩
      | ok pushed =>
          obtain ⟨payloads, d1⟩ := pushed
          rw [hp] at h
          obtain ⟨before, chunk', after, d', rfl, hbefore, hthrows⟩ := ih h
          refine ⟨chunk :: before, chunk', after, d', rfl, ?_, hthrows⟩
          rw [pushAll, hp]
          exact hbefore

/-- The payloads of a run which throws are those of the pushes before. -/
theorem pushAll_throw {d d' : NiFrameDecoder} {before : List Bytes} {chunk : Bytes}
    {error : String} (h : (d.pushAll maxPayloadLength before).2 = .ok d')
    (hthrows : d'.push maxPayloadLength chunk = .error error) (after : List Bytes) :
    d.pushAll maxPayloadLength (before ++ chunk :: after) =
      ((d.pushAll maxPayloadLength before).1, .error error) := by
  induction before generalizing d with
  | nil =>
      cases h
      rw [List.nil_append]
      simp only [pushAll, hthrows]
  | cons first before ih =>
      rw [List.cons_append, pushAll, pushAll]
      rw [pushAll] at h
      cases hp : d.push maxPayloadLength first with
      | error error' =>
          rw [hp] at h
          cases h
      | ok pushed =>
          obtain ⟨payloads, d1⟩ := pushed
          rw [hp] at h
          dsimp only
          rw [ih h]

/-- A run over a stream without a header which declares too much does not throw. -/
theorem pushAll_ok {chunks : List Bytes} (h : ¬ Oversized maxPayloadLength chunks.flatten) :
    ∃ d, (empty.pushAll maxPayloadLength chunks).2 = .ok d := by
  cases hr : (empty.pushAll maxPayloadLength chunks).2 with
  | ok d => exact ⟨d, rfl⟩
  | error error =>
      obtain ⟨before, chunk, after, d, rfl, hbefore, hthrows⟩ := exists_throw hr
      obtain ⟨hbehind, -⟩ := Behind.empty.pushAll hbefore
      obtain ⟨-, -, hx⟩ | ⟨payloads, d', ho, -, -⟩ := hbehind.push chunk
      · have hall := (hx.append after.flatten).1
        rw [List.nil_append, List.append_assoc, ← List.flatten_cons,
          ← List.flatten_append] at hall
        exact absurd hall h
      · cases ho.symm.trans hthrows

end Runs

/-- Chunks make no difference exactly where the chunk which completes a header declaring too
much completes no record before it. -/
theorem chunkIndependent_iff (maxPayloadLength : Nat) (chunks : List Bytes) :
    ChunkIndependent maxPayloadLength chunks ↔
      ∀ before chunk after, chunks = before ++ chunk :: after →
        ¬ Oversized maxPayloadLength before.flatten →
        Oversized maxPayloadLength (before.flatten ++ chunk) →
        admissibleFrames maxPayloadLength (before.flatten ++ chunk) =
          admissibleFrames maxPayloadLength before.flatten := by
  have delivered {before : List Bytes} {chunk : Bytes} {d : NiFrameDecoder} {error : String}
      (after : List Bytes) (hbefore : (empty.pushAll maxPayloadLength before).2 = .ok d)
      (hthrows : d.push maxPayloadLength chunk = .error error) :
      (empty.pushAll maxPayloadLength (before ++ chunk :: after)).1 =
        admissibleFrames maxPayloadLength before.flatten := by
    rw [pushAll_throw hbefore hthrows after]
    exact pushAll_frames hbefore
  have throws {before : List Bytes} {d : NiFrameDecoder} (chunk : Bytes)
      (hbefore : (empty.pushAll maxPayloadLength before).2 = .ok d) :
      (∃ error, d.push maxPayloadLength chunk = .error error) ↔
        Oversized maxPayloadLength (before.flatten ++ chunk) := by
    have hbehind := (Behind.empty.pushAll hbefore).1
    obtain ⟨error, he, hx⟩ | ⟨payloads, d', ho, hb, -⟩ := hbehind.push chunk
    · exact iff_of_true ⟨error, he⟩ hx
    · refine iff_of_false ?_ hb.admissible
      rintro ⟨error, he⟩
      cases he.symm.trans ho
  constructor
  · rintro h before chunk after rfl hn hx
    obtain ⟨d, hbefore⟩ := pushAll_ok hn
    obtain ⟨error, hthrows⟩ := (throws chunk hbefore).mpr hx
    have hframes := h.frames
    rw [delivered after hbefore hthrows, List.flatten_append, List.flatten_cons,
      ← List.append_assoc, (hx.append after.flatten).2] at hframes
    exact hframes.symm
  · intro h
    refine ⟨?_, ?_, ?_⟩
    · cases hr : (empty.pushAll maxPayloadLength chunks).2 with
      | ok d => exact pushAll_frames hr
      | error error =>
          obtain ⟨before, chunk, after, d, rfl, hbefore, hthrows⟩ := exists_throw hr
          have hn := (Behind.empty.pushAll hbefore).1.admissible
          have hx := (throws chunk hbefore).mp ⟨error, hthrows⟩
          rw [delivered after hbefore hthrows, List.flatten_append, List.flatten_cons,
            ← List.append_assoc, (hx.append after.flatten).2]
          exact (h before chunk after rfl hn hx).symm
    · rintro before chunk after rfl d hbefore
      exact throws chunk hbefore
    · rintro before after rfl d hbefore
      have hb := (Behind.empty.pushAll hbefore).1
      have hremaining : d.remaining = leftover before.flatten := by
        rw [hb.remaining]
        exact congrArg Prod.snd (drive_boundedRecords hb.admissible)
      have hlength : d.bufferedByteLength = (leftover before.flatten).length := by
        rw [hb.wellFormed.buffered, hremaining]
      refine ⟨hlength, ?_⟩
      rw [finish, hlength]
      split
      · rename_i hne
        exact iff_of_false nofun fun he => hne (List.length_eq_zero_iff.mpr he)
      · rename_i he
        exact iff_of_true rfl (List.length_eq_zero_iff.mp (not_not.mp he))

/-- The frames of payloads within the bound are read completely. -/
theorem drive_encoded {payloads frames : List Bytes}
    (h : List.Forall₂ (fun payload frame => encodeNiFrame payload = .ok frame) payloads frames)
    (hl : ∀ payload ∈ payloads, payload.length ≤ maxPayloadLength) (before : List Bytes) :
    (boundedRecords maxPayloadLength).drive before frames.flatten = (before ++ payloads, []) := by
  induction h generalizing before with
  | nil =>
      rw [List.append_nil]
      exact boundedRecords_wait rfl
  | @cons payload frame payloads frames hp _ ih =>
      obtain ⟨hpayload, hrest⟩ := List.forall_mem_cons.mp hl
      have hr := record_encode hp frames.flatten
      obtain ⟨header, hh, hn, he⟩ := record_eq_some.mp hr
      have hx : ¬ Exceeds maxPayloadLength (frame ++ frames.flatten) := by
        rw [Exceeds, he, ← hh, List.append_assoc, List.take_left, hn]
        exact fun hx => Nat.not_lt.mpr hpayload hx.2
      rw [List.flatten_cons, boundedRecords_read hx hr, ih hrest, List.append_assoc]
      rfl

/-- Whatever the chunks in which the frames of payloads within the bound arrive, the payloads
come back, all of them and in order, and nothing is left over. -/
theorem pushAll_encoded {payloads frames chunks : List Bytes}
    (h : List.Forall₂ (fun payload frame => encodeNiFrame payload = .ok frame) payloads frames)
    (hl : ∀ payload ∈ payloads, payload.length ≤ maxPayloadLength)
    (hc : chunks.flatten = frames.flatten) :
    ∃ d, empty.pushAll maxPayloadLength chunks = (payloads, .ok d) ∧ d.finish = .ok () := by
  have hd := drive_encoded h hl []
  rw [← hc] at hd
  have hx : ¬ Oversized maxPayloadLength chunks.flatten := by
    rw [Oversized, hd]
    exact fun hx => Nat.not_succ_le_zero _ hx.1
  obtain ⟨d, ho⟩ := pushAll_ok hx
  refine ⟨d, Prod.ext ((pushAll_frames ho).trans (congrArg Prod.fst hd)) ho, ?_⟩
  have hb := (Behind.empty.pushAll ho).1
  rw [finish, hb.wellFormed.buffered, hb.remaining, List.nil_append, hd]
  rfl

theorem pushAll_encoded_cut : ∃ d,
    empty.pushAll 4 [[0, 0], [0, 1, 0x41, 0], [0, 0, 0]] = ([[0x41], []], .ok d) ∧
      d.finish = .ok () :=
  pushAll_encoded
    (.cons (show encodeNiFrame [0x41] = .ok [0, 0, 0, 1, 0x41] from rfl)
      (.cons (show encodeNiFrame [] = .ok [0, 0, 0, 0] from rfl) .nil))
    (by decide) rfl

/-- A record is lost where its last byte arrives together with a header which declares too
much. -/
theorem not_chunkIndependent_sharedChunk :
    ¬ ChunkIndependent 4 [[0, 0, 0, 1, 0x41, 0, 0, 0, 5]] := by
  intro h
  have hframes : admissibleFrames 4 [0, 0, 0, 1, 0x41, 0, 0, 0, 5] = [[0x41]] := by
    have hr : record [0, 0, 0, 1, 0x41, 0, 0, 0, 5] = some ([0x41], [0, 0, 0, 5]) := by decide
    rw [admissibleFrames, boundedRecords_read (by decide) hr, boundedRecords_wait (by decide)]
    rfl
  have hpushed := h.frames.trans hframes
  revert hpushed
  decide

end NiFrameDecoder
end OpenRfc.Ni
