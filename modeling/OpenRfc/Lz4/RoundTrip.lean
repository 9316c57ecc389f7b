import OpenRfc.Lz4.Sequences

/-!
Decoding what has been encoded. The encoder keeps one invariant: what it has written decodes
to the source up to its anchor, and the rest of the source still fits behind it. Nothing is
assumed of the hash; a table entry is only known to be an earlier position.
-/

namespace OpenRfc.Lz4
open Backreference Fallible

section Matches
variable {source : Bytes}

/-- The bytes at two positions are the same. -/
def Agree (source : Bytes) (candidate position length : Nat) : Prop :=
  ∀ k < length, source[candidate + k]? = source[position + k]?

theorem getElem?_slice {offset length k : Nat} (hk : k < length) :
    (Bytes.slice source offset length)[k]? = source[offset + k]? := by
  rw [Bytes.slice, List.getElem?_take_of_lt hk, List.getElem?_drop]

/-- The word which is compared is all four bytes, whatever the hash has made of them. -/
theorem agree_of_readUInt32LE {candidate position : Nat} (hc : candidate + 4 ≤ source.length)
    (hp : position + 4 ≤ source.length)
    (h : readUInt32LE source candidate = readUInt32LE source position) :
    Agree source candidate position 4 := by
  have hlength : (Bytes.slice source candidate 4).reverse.length =
      (Bytes.slice source position 4).reverse.length := by
    rw [List.length_reverse, List.length_reverse, Bytes.length_slice hc, Bytes.length_slice hp]
  have hslices : Bytes.slice source candidate 4 = Bytes.slice source position 4 :=
    List.reverse_injective (Bytes.number_injective hlength h)
  intro k hk
  rw [← getElem?_slice hk, hslices, getElem?_slice hk]

theorem agree_extendMatch {candidate position matchLength : Nat}
    (h : Agree source candidate position matchLength) :
    Agree source candidate position (extendMatch source candidate position matchLength) := by
  induction matchLength using extendMatch.induct source candidate position with
  | case1 matchLength hc ih =>
      rw [extendMatch, if_pos hc]
      apply ih
      intro k hk
      rcases Nat.lt_succ_iff_lt_or_eq.mp hk with hlt | heq
      · exact h k hlt
      · rw [heq]
        exact hc.2
  | case2 matchLength hc =>
      rw [extendMatch, if_neg hc]
      exact h

theorem extendMatch_le {candidate position matchLength : Nat}
    (h : position + matchLength ≤ matchEndLimit source) :
    position + extendMatch source candidate position matchLength ≤ matchEndLimit source := by
  induction matchLength using extendMatch.induct source candidate position with
  | case1 matchLength hc ih =>
      rw [extendMatch, if_pos hc]
      exact ih hc.1
  | case2 matchLength hc =>
      rw [extendMatch, if_neg hc]
      exact h

/-- The table holds positions before a given one, or −1. -/
def Below (hashTable : Nat → Int) (position : Nat) : Prop := ∀ hash, hashTable hash < position

theorem Below.mono {hashTable : Nat → Int} {position later : Nat}
    (h : Below hashTable position) (hle : position ≤ later) : Below hashTable later := by
  intro hash
  have hbelow := h hash
  omega

theorem Below.update {hashTable : Nat → Int} {position entered : Nat} (hash : Nat)
    (h : Below hashTable position) (hlt : entered < position) :
    Below (Function.update hashTable hash (entered : Int)) position := by
  intro other
  rw [Function.update_apply]
  split
  · exact Int.ofNat_lt.mpr hlt
  · exact h other

theorem Below.foldl {updates : List Nat} {hashTable : Nat → Int} {position : Nat}
    (h : Below hashTable position) (hlt : ∀ update ∈ updates, update < position) :
    Below (updates.foldl (fun hashTable update =>
      Function.update hashTable (hashAt source update) (update : Int)) hashTable) position := by
  induction updates generalizing hashTable with
  | nil => exact h
  | cons update updates ih =>
      rw [List.forall_mem_cons] at hlt
      exact ih (h.update _ hlt.1) hlt.2

theorem Below.enterPositions {hashTable : Nat → Int} {matchStart position : Nat}
    (h : Below hashTable position) :
    Below (enterPositions source hashTable matchStart position) position := by
  apply h.foldl
  intro update hu
  rw [List.mem_range'_1] at hu
  omega

end Matches

section Decoding
variable {source : Bytes} {maxOutputLength : Int}

/-- The decoder reads `block` and is back in its loop, with more of the source behind it. -/
def Decodes (source : Bytes) (maxOutputLength : Int) (block : Bytes) (start stop : Nat) : Prop :=
  ∀ (rest : Bytes) (fuel : Nat), block.length + rest.length ≤ fuel →
    ∃ fuel', rest.length ≤ fuel' ∧
      decodeSequences source.length maxOutputLength fuel (block ++ rest) (source.take start) =
        decodeSequences source.length maxOutputLength fuel' rest (source.take stop)

theorem Decodes.nil (start : Nat) : Decodes source maxOutputLength [] start start := by
  intro rest fuel h
  rw [List.length_nil, Nat.zero_add] at h
  exact ⟨fuel, h, rfl⟩

theorem Decodes.append {first second : Bytes} {start middle stop : Nat}
    (hfirst : Decodes source maxOutputLength first start middle)
    (hsecond : Decodes source maxOutputLength second middle stop) :
    Decodes source maxOutputLength (first ++ second) start stop := by
  intro rest fuel h
  rw [List.length_append, Nat.add_assoc, ← List.length_append] at h
  obtain ⟨fuel₁, h₁, he₁⟩ := hfirst (second ++ rest) fuel h
  rw [List.length_append] at h₁
  obtain ⟨fuel₂, h₂, he₂⟩ := hsecond rest fuel₁ h₁
  refine ⟨fuel₂, h₂, ?_⟩
  rw [List.append_assoc, he₁, he₂]

/-- A match found in the source decodes to the source. -/
theorem decodes_sequenceBytes {anchor candidate position matchLength : Nat}
    (ha : anchor ≤ position) (hc : candidate < position) (hfar : position - candidate ≤ 0xffff)
    (hm : 4 ≤ matchLength) (hl : position + matchLength ≤ source.length)
    (hmax : (source.length : Int) ≤ maxOutputLength)
    (hagree : Agree source candidate position matchLength) :
    Decodes source maxOutputLength (sequenceBytes
        (Bytes.slice source anchor (position - anchor)) (position - candidate) matchLength)
      anchor (position + matchLength) := by
  intro rest fuel h
  rw [sequenceBytes, List.length_cons] at h
  have hfuel : fuel = fuel - 1 + 1 := by omega
  have hanchor : (source.take anchor).length = anchor := List.length_take_of_le (by omega)
  have hliterals : (Bytes.slice source anchor (position - anchor)).length =
      position - anchor := Bytes.length_slice (by omega)
  refine ⟨fuel - 1, by omega, ?_⟩
  rw [hfuel, Nat.add_sub_cancel, decode_sequenceBytes rest (by omega) hm (by omega) hmax,
    Bytes.take_append_slice, Nat.add_sub_of_le ha, copy_take (by omega) hl (by omega)]
  intro k hk
  have he : position + k - (position - candidate) = candidate + k := by omega
  rw [he]
  exact hagree k hk

end Decoding

section Search
variable {source : Bytes} {buffer : OutputBuffer} {maxOutputLength : Int}

structure Search.Sound (source : Bytes) (s : Search) : Prop where
  anchor_le : s.anchor ≤ s.position
  position_le : s.position ≤ source.length
  below : Below s.hashTable s.position

theorem Search.sound_initial : Search.initial.Sound source :=
  ⟨le_rfl, Nat.zero_le _, fun _ => Int.negSucc_lt_zero 0⟩

theorem Search.Sound.skip {s : Search} (hs : s.Sound source)
    (hstart : s.position + 12 ≤ source.length) :
    Search.Sound source { s with
      hashTable := Function.update s.hashTable (hashAt source s.position) (s.position : Int),
      position := s.position + 1 } where
  anchor_le := Nat.le_succ_of_le hs.anchor_le
  position_le := (Nat.add_le_add_left (by decide) _).trans hstart
  below := (hs.below.mono (Nat.le_succ _)).update _ (Nat.lt_succ_self _)

/-- What the search has found when it does not skip a position. -/
structure Found (source : Bytes) (s : Search) (candidate matchLength : Nat) : Prop where
  lt_position : candidate < s.position
  near : s.position - candidate ≤ 0xffff
  four_le : 4 ≤ matchLength
  stop_le : s.position + matchLength ≤ source.length
  agree : Agree source candidate s.position matchLength

theorem Search.Sound.found {s : Search} (hs : s.Sound source)
    (hstart : s.position + 12 ≤ source.length) {candidate : Int}
    (hc : candidate = s.hashTable (hashAt source s.position))
    (hskip : ¬(candidate < 0 ∨ s.position - candidate > 0xffff ∨
      readUInt32LE source candidate.toNat ≠ readUInt32LE source s.position)) :
    Found source s candidate.toNat (extendMatch source candidate.toNat s.position 4) := by
  have hbelow : candidate < s.position := hc ▸ hs.below _
  obtain ⟨hpos, hfar, hword⟩ := not_or.mp hskip |>.imp id not_or.mp
  have hend : s.position + extendMatch source candidate.toNat s.position 4 ≤
      source.length - 5 := extendMatch_le (by unfold matchEndLimit; omega)
  refine ⟨by omega, by omega, le_extendMatch source _ _ 4, by omega, ?_⟩
  exact agree_extendMatch (agree_of_readUInt32LE (by omega) (by omega) (not_not.mp hword))

theorem Search.Sound.sequence {s : Search} {candidate matchLength : Nat}
    (hs : s.Sound source) (hf : Found source s candidate matchLength) (output : Bytes) :
    Search.Sound source
      ⟨enterPositions source
          (Function.update s.hashTable (hashAt source s.position) (s.position : Int))
          s.position (s.position + matchLength),
        s.position + matchLength, s.position + matchLength, output⟩ := by
  have hm := hf.four_le
  have hbelow := (hs.below.mono (Nat.le_add_right _ matchLength)).update
    (hashAt source s.position) (by omega : s.position < s.position + matchLength)
  exact ⟨le_rfl, hf.stop_le, hbelow.enterPositions⟩

/-- Whatever the search writes decodes to the source up to its last anchor. -/
theorem search_decodes (hmax : (source.length : Int) ≤ maxOutputLength) {s s' : Search}
    (hs : s.Sound source) (h : searchMatches source buffer s = .ok s') :
    s'.Sound source ∧ (s.output.length ≤ buffer.capacity → s'.output.length ≤ buffer.capacity) ∧
      ∃ block, s'.output = s.output ++ block ∧
        Decodes source maxOutputLength block s.anchor s'.anchor := by
  induction s using searchMatches.induct source with
  | case1 s hstart hash candidate hashTable distance hskip ih =>
      rw [searchMatches, if_pos hstart, if_pos hskip] at h
      exact ih (hs.skip hstart) h
  | case2 s hstart hash candidate hashTable distance hskip matchLength ih =>
      rw [searchMatches, if_pos hstart, if_neg hskip] at h
      obtain ⟨output, hwrite, hrest⟩ := bind_eq_ok.mp h
      have hf := hs.found hstart rfl hskip
      have hdistance : distance.toNat = s.position - candidate.toNat := by
        have hlt := hf.lt_position
        omega
      obtain ⟨hs', hle, block, hblock, hdecodes⟩ := ih output (hs.sequence hf output) hrest
      have hwrites : Writes buffer _ _ :=
        writes_sequence distance.toNat matchLength hs.anchor_le hs.position_le
      have houtput := hwrites.eq_of_ok s.output output hwrite
      refine ⟨hs', fun h => hle (hwrites.le_of_ok _ _ hwrite h), _, ?_, Decodes.append (decodes_sequenceBytes hs.anchor_le hf.lt_position
        hf.near hf.four_le hf.stop_le hmax hf.agree) hdecodes⟩
      rw [hblock, ← hdistance, ← List.append_assoc, ← houtput]
  | case3 s hstop =>
      rw [searchMatches, if_neg hstop] at h
      cases h
      exact ⟨hs, id, [], (List.append_nil _).symm, Decodes.nil _⟩

/-- The room which the bytes from the anchor on may need at most. -/
def remaining (source : Bytes) (anchor : Nat) : Nat :=
  source.length - anchor + (source.length - anchor) / 255 + 2

/-- A sequence takes no more room than the bytes which it stands for. -/
theorem Found.room {s : Search} {candidate matchLength : Nat} (hs : s.Sound source)
    (hf : Found source s candidate matchLength) (distance : Nat)
    (h : s.output.length + remaining source s.anchor ≤ buffer.capacity) :
    s.output.length + (sequenceBytes (Bytes.slice source s.anchor (s.position - s.anchor))
      distance matchLength).length + remaining source (s.position + matchLength) ≤
        buffer.capacity := by
  have hanchor := hs.anchor_le
  have hstop := hf.stop_le
  have hlength := length_sequenceBytes
    (Bytes.slice source s.anchor (s.position - s.anchor)) distance hf.four_le
  rw [Bytes.length_slice (by omega)] at hlength
  unfold remaining at h ⊢
  omega

theorem search_succeeds {s : Search} (hs : s.Sound source)
    (hroom : s.output.length + remaining source s.anchor ≤ buffer.capacity) :
    ∃ s', searchMatches source buffer s = .ok s' ∧
      s'.output.length + remaining source s'.anchor ≤ buffer.capacity := by
  induction s using searchMatches.induct source with
  | case1 s hstart hash candidate hashTable distance hskip ih =>
      rw [searchMatches, if_pos hstart, if_pos hskip]
      exact ih (hs.skip hstart) hroom
  | case2 s hstart hash candidate hashTable distance hskip matchLength ih =>
      rw [searchMatches, if_pos hstart, if_neg hskip]
      have hf := hs.found hstart rfl hskip
      have hnext := hf.room hs distance.toNat hroom
      have hwrite := (writes_sequence distance.toNat matchLength hs.anchor_le
        hs.position_le).ok_of_fits s.output ((Nat.le_add_right _ _).trans hnext)
      obtain ⟨s', he, hroom'⟩ := ih _ (hs.sequence hf _) (by rw [List.length_append]; exact hnext)
      refine ⟨s', ?_, hroom'⟩
      show (writeSequence source buffer s.output s.anchor s.position distance.toNat
        matchLength >>= _) = _
      rw [hwrite]
      exact he
  | case3 s hstop =>
      rw [searchMatches, if_neg hstop]
      exact ⟨s, rfl, hroom⟩

end Search

section Blocks
variable {source block : Bytes} {options : Lz4BlockEncodeOptions} {maxOutputLength : Int}

/-- What the encoder has returned decodes to the source. -/
theorem decodeSequences_encode (hmax : (source.length : Int) ≤ maxOutputLength)
    (h : encodeLz4Block source options = .ok block) :
    block ≠ [] ∧ (block.length : Int) ≤ options.maxOutputLength ∧
      decodeSequences source.length maxOutputLength block.length block [] = .ok source := by
  simp only [encodeLz4Block, configuredEncodeLimit, bind_eq_ok, require_eq_ok, exists_const] at h
  obtain ⟨-, hlimit, -, h⟩ := h
  generalize hb : (⟨min (encodedLengthBound source.length) options.maxOutputLength.toNat,
    options.maxOutputLength⟩ : OutputBuffer) = buffer at h
  have hcapacity : (buffer.capacity : Int) ≤ options.maxOutputLength := by
    rw [← hb]
    show ((min _ _ : Nat) : Int) ≤ _
    omega
  split at h
  · rename_i hempty
    have hnil : source = [] := List.length_eq_zero_iff.mp hempty
    have hblock := (Writes.append [UInt8.ofNat 0]).eq_of_ok [] block h
    have hle := (Writes.append [UInt8.ofNat 0]).le_of_ok [] block h (Nat.zero_le _)
    refine ⟨?_, by omega, ?_⟩
    · rw [hblock]
      exact List.cons_ne_nil _ _
    · rw [hnil, hblock]
      rfl
  · obtain ⟨s, hsearch, hlast⟩ := bind_eq_ok.mp h
    obtain ⟨hs, hle, written, hwritten, hdecodes⟩ :=
      search_decodes hmax Search.sound_initial hsearch
    have hblock := (writes_last source s.anchor).eq_of_ok _ block hlast
    have hfits := (writes_last source s.anchor).le_of_ok _ block hlast
      (hle (Nat.zero_le _))
    have houtput : s.output = written := hwritten
    rw [houtput] at hblock
    refine ⟨?_, by omega, ?_⟩
    · rw [hblock]
      exact List.append_ne_nil_of_right_ne_nil _ (List.cons_ne_nil _ _)
    · obtain ⟨fuel, hfuel, he⟩ := hdecodes (lastBytes (source.drop s.anchor)) _ le_rfl
      rw [← List.length_append, ← hblock] at he
      rw [lastBytes, List.length_cons] at hfuel
      have hstep : fuel = fuel - 1 + 1 := by omega
      have hparts : (source.take s.anchor).length + (source.drop s.anchor).length =
          source.length := by
        rw [← List.length_append, List.take_append_drop]
      rw [hstep, decode_lastBytes hparts.le hmax, List.take_append_drop] at he
      exact he

theorem decode_of_encode {decodeOptions : Lz4BlockDecodeOptions}
    (h : encodeLz4Block source options = .ok block)
    (hinput : options.maxOutputLength ≤ decodeOptions.maxInputLength ∧
      decodeOptions.maxInputLength ≤ maxLz4EncodedBlockLength)
    (houtput : (source.length : Int) ≤ decodeOptions.maxOutputLength ∧
      decodeOptions.maxOutputLength ≤ maxLz4BlockLength) :
    decodeLz4Block block source.length decodeOptions = .ok source := by
  obtain ⟨hne, hlength, hdecode⟩ := decodeSequences_encode houtput.1 h
  simp only [decodeLz4Block, configuredLimit, boundedLength, Int.toNat_natCast]
  rw [require_of (by omega), ok_bind, require_of (by omega), ok_bind,
    require_of (Int.natCast_nonneg _), ok_bind, require_of (by omega), ok_bind,
    require_of (Int.natCast_nonneg _), ok_bind, require_of houtput.1, ok_bind,
    require_of hne, ok_bind, hdecode, ok_bind, require_of rfl, ok_bind]

/-- With the default limits the buffer is never too small. -/
theorem encode_succeeds (hmax : source.length ≤ maxLz4BlockLength) :
    ∃ block, encodeLz4Block source {} = .ok block := by
  rcases Nat.eq_zero_or_pos source.length with hempty | hpos
  · have hnil : source = [] := List.length_eq_zero_iff.mp hempty
    rw [hnil]
    exact ⟨[0], rfl⟩
  · have hcapacity : min (encodedLengthBound source.length) maxLz4EncodedBlockLength =
        source.length + source.length / 255 + 16 := by
      have hdiv : source.length / 255 ≤ maxLz4BlockLength / 255 := Nat.div_le_div_right hmax
      rw [encodedLengthBound, if_neg (by omega), Nat.min_eq_left]
      unfold maxLz4EncodedBlockLength
      omega
    let buffer : OutputBuffer :=
      ⟨min (encodedLengthBound source.length) maxLz4EncodedBlockLength, maxLz4EncodedBlockLength⟩
    have hroom : 0 + remaining source 0 ≤ buffer.capacity := by
      show 0 + remaining source 0 ≤
        min (encodedLengthBound source.length) maxLz4EncodedBlockLength
      rw [hcapacity, remaining]
      omega
    obtain ⟨s, hsearch, hroom'⟩ := search_succeeds Search.sound_initial hroom
    have hlength := length_lastBytes (source.drop s.anchor)
    rw [List.length_drop] at hlength
    unfold remaining at hroom'
    refine ⟨s.output ++ lastBytes (source.drop s.anchor), ?_⟩
    simp only [encodeLz4Block, configuredEncodeLimit]
    rw [require_of (by decide), ok_bind, require_of (by decide), ok_bind,
      require_of (Int.ofNat_le.mpr hmax), ok_bind, if_neg (by omega)]
    show (searchMatches source buffer .initial >>= _) = _
    rw [hsearch]
    have hwrites : Writes buffer _ _ := writes_last source s.anchor
    exact hwrites.ok_of_fits s.output (by omega)

end Blocks

/-- The encoder succeeds on every source which is not too long, and the decoder gives it back. -/
theorem decode_encode (source : Bytes) (hmax : source.length ≤ maxLz4BlockLength) :
    ∃ block, encodeLz4Block source {} = .ok block ∧
      decodeLz4Block block source.length {} = .ok source := by
  obtain ⟨block, hblock⟩ := encode_succeeds hmax
  refine ⟨block, hblock, decode_of_encode hblock ⟨le_rfl, le_rfl⟩ ⟨?_, le_rfl⟩⟩
  exact Int.ofNat_le.mpr hmax

/-- A run of one byte, whose match overlaps itself. -/
theorem decode_encode_run :
    ∃ block, encodeLz4Block (List.replicate 40 7) {} = .ok block ∧
      decodeLz4Block block 40 {} = .ok (List.replicate 40 7) :=
  decode_encode (List.replicate 40 7) (by decide)

end OpenRfc.Lz4
