import OpenRfc.Lz4.Sequences

/-!
The grammar of blocks and what a block stands for. A block is read the same way whatever
comes behind it, so that soundness and completeness are inductions over its sequences.
-/

namespace OpenRfc.Lz4
open Backreference Fallible

section Grammar

/-- A run of literals with the match behind it. -/
structure MatchSequence where
  literals : Bytes
  distance : Nat
  matchLength : Nat
deriving DecidableEq, Repr

namespace MatchSequence

def bytes (s : MatchSequence) : Bytes := sequenceBytes s.literals s.distance s.matchLength

def apply (written : Bytes) (s : MatchSequence) : Bytes :=
  copy (written ++ s.literals) s.distance s.matchLength

/-- The match starts in what has been written by then. -/
structure Valid (s : MatchSequence) (written : Bytes) : Prop where
  one_le_distance : 1 ≤ s.distance
  distance_le : s.distance ≤ 0xffff
  inside : s.distance ≤ written.length + s.literals.length
  four_le : 4 ≤ s.matchLength

end MatchSequence

def frontBytes (sequences : List MatchSequence) : Bytes :=
  sequences.flatMap MatchSequence.bytes

def expand (written : Bytes) (sequences : List MatchSequence) : Bytes :=
  sequences.foldl MatchSequence.apply written

def ValidFrom : Bytes → List MatchSequence → Prop
  | _, [] => True
  | written, s :: sequences => s.Valid written ∧ ValidFrom (s.apply written) sequences

/-- A sequence without a match. Nothing is read from the lower half of its token. -/
def lastSequence (literals : Bytes) (low : Nat) : Bytes :=
  UInt8.ofNat ((min literals.length 15) <<< 4 ||| low) ::
    (extension literals.length ++ literals)

/-- The published grammar: sequences, of which the last one has literals only. -/
def Denotes (block out : Bytes) : Prop :=
  ∃ sequences literals low, low ≤ 15 ∧ ValidFrom [] sequences ∧
    block = frontBytes sequences ++ lastSequence literals low ∧
    out = expand [] sequences ++ literals

/-- A block which ends right behind a match. -/
def DenotesOpen (block out : Bytes) : Prop :=
  ∃ sequences, sequences ≠ [] ∧ ValidFrom [] sequences ∧ block = frontBytes sequences ∧
    out = expand [] sequences

theorem lastSequence_ne_nil (literals : Bytes) (low : Nat) : lastSequence literals low ≠ [] :=
  List.cons_ne_nil _ _

theorem frontBytes_ne_nil {sequences : List MatchSequence} (h : sequences ≠ []) :
    frontBytes sequences ≠ [] := by
  cases sequences with
  | nil => exact absurd rfl h
  | cons s sequences =>
      simp [frontBytes, MatchSequence.bytes, sequenceBytes]

theorem length_copy {out : Bytes} {distance : Nat} (h : 1 ≤ distance ∧ distance ≤ out.length)
    (length : Nat) : (copy out distance length).length = out.length + length := by
  induction length generalizing out with
  | zero => rfl
  | succ length ih =>
      have hbyte : (out[out.length - distance]?.toList).length = 1 := by
        rw [List.getElem?_eq_getElem (by omega)]
        rfl
      have hnext : (out ++ out[out.length - distance]?.toList).length = out.length + 1 := by
        rw [List.length_append, hbyte]
      rw [copy, ih (by omega), hnext]
      omega

theorem MatchSequence.Valid.length_apply {s : MatchSequence} {written : Bytes}
    (h : s.Valid written) :
    (s.apply written).length = written.length + s.literals.length + s.matchLength := by
  have hinside := h.inside
  rw [← List.length_append] at hinside
  rw [MatchSequence.apply, length_copy ⟨h.one_le_distance, hinside⟩, List.length_append]

theorem ValidFrom.length_le_expand {sequences : List MatchSequence} {written : Bytes}
    (h : ValidFrom written sequences) : written.length ≤ (expand written sequences).length := by
  induction sequences generalizing written with
  | nil => exact le_rfl
  | cons s sequences ih =>
      have hlength := h.1.length_apply
      have hrest := ih h.2
      rw [expand, List.foldl_cons]
      exact le_trans (by omega) hrest

end Grammar

section Reading
variable {maxOutputLength : Int} {kind : String}

theorem readExtension_eq_ok {base length : Nat} {source rest : Bytes}
    (h : readExtension maxOutputLength kind base source = .ok (length, rest)) :
    ∃ remainder, length = base + remainder ∧ source = remainderBytes remainder ++ rest := by
  induction source generalizing base with
  | nil => cases h
  | cons byte source ih =>
      have hlt := byte.toNat_lt
      simp only [readExtension] at h
      split at h
      · cases h
      · split at h
        · rename_i hne
          have hbyte : byte.toNat < 255 := by
            rcases Nat.lt_or_ge byte.toNat 255 with hlt | hge
            · exact hlt
            · exact absurd (UInt8.toNat.inj (by show byte.toNat = 255; omega)) hne
          obtain ⟨rfl, rfl⟩ := Prod.mk.inj (Except.ok.inj h)
          refine ⟨byte.toNat, rfl, ?_⟩
          rw [remainderBytes_of_lt hbyte, UInt8.ofNat_toNat]
          rfl
        · rename_i hfull
          obtain ⟨remainder, hlength, hsource⟩ := ih h
          have hbyte : byte.toNat = 255 := by
            rw [not_not.mp hfull]
            rfl
          refine ⟨remainder + 255, by omega, ?_⟩
          rw [remainderBytes_of_le (Nat.le_add_left _ _), Nat.add_sub_cancel, hsource,
            not_not.mp hfull]
          rfl

theorem readExtendedLength_eq_ok {base length : Nat} {source rest : Bytes} (hb : base ≤ 15)
    (h : readExtendedLength maxOutputLength base kind source = .ok (length, rest)) :
    base = min length 15 ∧ source = extension length ++ rest := by
  unfold readExtendedLength at h
  split at h
  · rename_i hne
    obtain ⟨rfl, rfl⟩ := Prod.mk.inj (Except.ok.inj h)
    rw [extension, if_pos (by omega)]
    exact ⟨by omega, rfl⟩
  · rename_i heq
    obtain ⟨remainder, hlength, hsource⟩ := readExtension_eq_ok h
    have hbase := not_not.mp heq
    rw [extension, if_neg (by omega), hsource, hlength, hbase, Nat.add_sub_cancel_left]
    exact ⟨by omega, rfl⟩

theorem token_of_halves (byte : UInt8) :
    (byte >>> 4).toNat ≤ 15 ∧ (byte &&& 0x0f).toNat ≤ 15 ∧
      UInt8.ofNat ((byte >>> 4).toNat <<< 4 ||| (byte &&& 0x0f).toNat) = byte := by
  have hall : ∀ b : Fin 256, (UInt8.ofNat b.val >>> 4).toNat ≤ 15 ∧
      (UInt8.ofNat b.val &&& 0x0f).toNat ≤ 15 ∧
      UInt8.ofNat ((UInt8.ofNat b.val >>> 4).toNat <<< 4 ||| (UInt8.ofNat b.val &&& 0x0f).toNat) =
        UInt8.ofNat b.val := by
    decide +kernel
  have h := hall ⟨byte.toNat, byte.toNat_lt⟩
  simp only [UInt8.ofNat_toNat] at h
  exact h

theorem readUInt16LE_spec {source : Bytes} (h : 2 ≤ source.length) :
    readUInt16LE source ≤ 0xffff ∧
      source = (Bytes.bigEndian 2 (readUInt16LE source)).reverse ++ source.drop 2 := by
  have hlength : (source.take 2).reverse.length = 2 := by
    rw [List.length_reverse, List.length_take_of_le h]
  have hlt := Bytes.number_lt (source.take 2).reverse
  rw [hlength] at hlt
  refine ⟨Nat.le_of_lt_succ hlt, ?_⟩
  rw [readUInt16LE, Bytes.bigEndian_number hlength, List.reverse_reverse, List.take_append_drop]

end Reading

section Loop
variable {outputLength : Nat} {maxOutputLength : Int}

/-- Sequences, and then nothing or a sequence without a match. -/
def Reads (written source out : Bytes) : Prop :=
  ∃ sequences literals tail, ValidFrom written sequences ∧ source = frontBytes sequences ++ tail ∧
    out = expand written sequences ++ literals ∧
    ((tail = [] ∧ literals = []) ∨ ∃ low ≤ 15, tail = lastSequence literals low)

theorem Reads.nil (written : Bytes) : Reads written [] written :=
  ⟨[], [], [], trivial, rfl, (List.append_nil _).symm, .inl ⟨rfl, rfl⟩⟩

theorem Reads.last (written literals : Bytes) {low : Nat} (h : low ≤ 15) :
    Reads written (lastSequence literals low) (written ++ literals) :=
  ⟨[], literals, _, trivial, rfl, rfl, .inr ⟨low, h, rfl⟩⟩

theorem Reads.cons {s : MatchSequence} {written source out : Bytes} (hs : s.Valid written)
    (h : Reads (s.apply written) source out) : Reads written (s.bytes ++ source) out := by
  obtain ⟨sequences, literals, tail, hvalid, hsource, hout, htail⟩ := h
  refine ⟨s :: sequences, literals, tail, ⟨hs, hvalid⟩, ?_, hout, htail⟩
  rw [hsource, frontBytes, frontBytes, List.flatMap_cons, List.append_assoc]

/-- What the loop has accepted is read by the grammar. -/
theorem reads_of_decodeSequences {fuel : Nat} {source output out : Bytes}
    (hfuel : source.length ≤ fuel)
    (h : decodeSequences outputLength maxOutputLength fuel source output = .ok out) :
    Reads output source out := by
  induction fuel generalizing source output with
  | zero =>
      have hnil : source = [] := List.length_eq_zero_iff.mp (Nat.le_zero.mp hfuel)
      cases h
      rw [hnil]
      exact Reads.nil _
  | succ fuel ih =>
      cases source with
      | nil =>
          cases h
          exact Reads.nil _
      | cons byte source =>
          obtain ⟨hhigh, hlow, hbyte⟩ := token_of_halves byte
          rw [decodeSequences] at h
          obtain ⟨⟨literalLength, behind⟩, hliteral, hread⟩ := bind_eq_ok.mp h
          clear h
          simp only [bind_eq_ok, require_eq_ok, exists_const] at hread
          obtain ⟨hfits, -, h⟩ := hread
          obtain ⟨hbase, rfl⟩ := readExtendedLength_eq_ok hhigh hliteral
          have hlength : (behind.take literalLength).length = literalLength :=
            List.length_take_of_le hfits
          rw [hbase] at hbyte
          split at h
          · rename_i hend
            cases h
            have hall : behind.take literalLength = behind := by
              rw [List.take_eq_self_iff]
              exact List.drop_eq_nil_iff.mp hend
            rw [hall] at hlength ⊢
            have hblock : byte :: (extension literalLength ++ behind) =
                lastSequence behind (byte &&& 0x0f).toNat := by
              rw [lastSequence, hlength, hbyte]
            rw [hblock]
            exact Reads.last output behind hlow
          · simp only [bind_eq_ok, require_eq_ok, exists_const] at h
            obtain ⟨htwo, hoffset, ⟨extendedLength, rest⟩, hmatch, -, h⟩ := h
            obtain ⟨hlow', hrest⟩ := readExtendedLength_eq_ok hlow hmatch
            obtain ⟨hle, hsource⟩ := readUInt16LE_spec htwo
            rw [List.length_append, hlength] at hoffset
            let s : MatchSequence :=
              ⟨behind.take literalLength, readUInt16LE (behind.drop literalLength),
                extendedLength + 4⟩
            have hblock : byte :: (extension literalLength ++ behind) = s.bytes ++ rest := by
              rw [MatchSequence.bytes, sequenceBytes, token, Nat.add_sub_cancel, hlength,
                ← hlow', hbyte]
              simp only [List.cons_append, List.append_assoc]
              rw [← hrest, ← hsource, List.take_append_drop]
            have hvalid : s.Valid output :=
              ⟨by show 1 ≤ readUInt16LE _; omega, hle, by
                show readUInt16LE _ ≤ output.length + (behind.take literalLength).length
                omega, Nat.le_add_left 4 _⟩
            rw [hblock]
            have hshort := congrArg List.length hblock
            simp only [MatchSequence.bytes, sequenceBytes, List.cons_append, List.length_cons,
              List.length_append] at hshort hfuel
            exact Reads.cons hvalid (ih (by omega) h)

/-- A sequence without a match, whatever the lower half of its token. -/
theorem decode_lastSequence {fuel low : Nat} {output literals : Bytes} (hlow : low ≤ 15)
    (hl : output.length + literals.length ≤ outputLength)
    (hmax : (outputLength : Int) ≤ maxOutputLength) :
    decodeSequences outputLength maxOutputLength (fuel + 1) (lastSequence literals low) output =
      .ok (output ++ literals) := by
  obtain ⟨hhigh, -⟩ := token_halves (Nat.min_le_right literals.length 15) hlow
  rw [lastSequence, decodeSequences]
  simp only [hhigh]
  rw [readExtendedLength_extension _ (by omega)]
  simp only [ok_bind]
  rw [require_of le_rfl, ok_bind, require_of hl, ok_bind, List.take_length, List.drop_length,
    if_pos rfl]

theorem decode_nil (fuel : Nat) (output : Bytes) :
    decodeSequences outputLength maxOutputLength fuel [] output = .ok output := by
  cases fuel <;> rfl

/-- What the grammar reads is accepted by the loop. -/
theorem decodeSequences_of_reads {fuel : Nat} {source output out : Bytes}
    (hfuel : source.length ≤ fuel) (hlength : out.length ≤ outputLength)
    (hmax : (outputLength : Int) ≤ maxOutputLength) (h : Reads output source out) :
    decodeSequences outputLength maxOutputLength fuel source output = .ok out := by
  obtain ⟨sequences, literals, tail, hvalid, rfl, rfl, htail⟩ := h
  rw [List.length_append] at hlength
  induction sequences generalizing fuel output with
  | nil =>
      rcases htail with ⟨rfl, rfl⟩ | ⟨low, hlow, rfl⟩
      · rw [frontBytes, List.flatMap_nil, List.append_nil, decode_nil, expand, List.foldl_nil,
          List.append_nil]
      · obtain ⟨fuel, rfl⟩ : ∃ n, fuel = n + 1 := by
          simp only [lastSequence, List.length_append, List.length_cons] at hfuel
          exact ⟨fuel - 1, by omega⟩
        exact decode_lastSequence hlow hlength hmax
  | cons s sequences ih =>
      have hs := hvalid.1
      have happly := hs.length_apply
      have hexpand := hvalid.2.length_le_expand
      have hfront : frontBytes (s :: sequences) ++ tail =
          s.bytes ++ (frontBytes sequences ++ tail) := by
        rw [frontBytes, List.flatMap_cons, List.append_assoc]
        rfl
      have hbytes : 1 ≤ s.bytes.length := by
        rw [MatchSequence.bytes, sequenceBytes, List.length_cons]
        omega
      rw [hfront, List.length_append] at hfuel
      obtain ⟨fuel, rfl⟩ : ∃ n, fuel = n + 1 := ⟨fuel - 1, by omega⟩
      rw [expand, List.foldl_cons, ← expand] at hlength ⊢
      rw [hfront, MatchSequence.bytes, decode_sequenceBytes _
        ⟨hs.one_le_distance, hs.inside, hs.distance_le⟩ hs.four_le (by omega) hmax]
      exact ih hvalid.2 (by omega) hlength

end Loop

section Blocks
variable {block out : Bytes}

theorem reads_iff_denotes (hne : block ≠ []) :
    Reads [] block out ↔ Denotes block out ∨ DenotesOpen block out := by
  constructor
  · rintro ⟨sequences, literals, tail, hvalid, hblock, hout, ⟨rfl, rfl⟩ | ⟨low, hlow, rfl⟩⟩
    · rw [List.append_nil] at hblock hout
      refine .inr ⟨sequences, ?_, hvalid, hblock, hout⟩
      rintro rfl
      exact hne hblock
    · exact .inl ⟨sequences, literals, low, hlow, hvalid, hblock, hout⟩
  · rintro (⟨sequences, literals, low, hlow, hvalid, hblock, hout⟩ |
      ⟨sequences, -, hvalid, hblock, hout⟩)
    · exact ⟨sequences, literals, _, hvalid, hblock, hout, .inr ⟨low, hlow, rfl⟩⟩
    · exact ⟨sequences, [], [], hvalid, by rw [hblock, List.append_nil],
        by rw [hout, List.append_nil], .inl ⟨rfl, rfl⟩⟩

theorem Denotes.ne_nil (h : Denotes block out) : block ≠ [] := by
  obtain ⟨sequences, literals, low, -, -, rfl, -⟩ := h
  exact List.append_ne_nil_of_right_ne_nil _ (lastSequence_ne_nil _ _)

theorem DenotesOpen.ne_nil (h : DenotesOpen block out) : block ≠ [] := by
  obtain ⟨sequences, hne, -, rfl, -⟩ := h
  exact frontBytes_ne_nil hne

/-- The limits which are configured, and the lengths within them. -/
structure WithinLimits (input : Bytes) (outputLength : Int) (options : Lz4BlockDecodeOptions) :
    Prop where
  maxInputLength : 0 ≤ options.maxInputLength ∧ options.maxInputLength ≤ maxLz4EncodedBlockLength
  maxOutputLength : 0 ≤ options.maxOutputLength ∧ options.maxOutputLength ≤ maxLz4BlockLength
  input : (input.length : Int) ≤ options.maxInputLength
  output : 0 ≤ outputLength ∧ outputLength ≤ options.maxOutputLength

variable {outputLength : Int} {options : Lz4BlockDecodeOptions}

theorem decodeLz4Block_eq_ok :
    decodeLz4Block block outputLength options = .ok out ↔
      WithinLimits block outputLength options ∧
        (Denotes block out ∨ DenotesOpen block out) ∧ (out.length : Int) = outputLength := by
  constructor
  · intro h
    simp only [decodeLz4Block, configuredLimit, boundedLength, bind_eq_ok, require_eq_ok,
      exists_const, Except.ok.injEq] at h
    obtain ⟨hin, hout, ⟨-, hinput⟩, hoffer, hne, output, hdecode, hlength, rfl⟩ := h
    refine ⟨⟨hin, hout, hinput, hoffer⟩, ?_, by omega⟩
    exact (reads_iff_denotes hne).mp (reads_of_decodeSequences le_rfl hdecode)
  · rintro ⟨hlimits, hdenotes, hlength⟩
    have hne : block ≠ [] := hdenotes.elim Denotes.ne_nil DenotesOpen.ne_nil
    have hoffer := hlimits.output
    have hreads := (reads_iff_denotes hne).mpr hdenotes
    have hdecode : decodeSequences outputLength.toNat options.maxOutputLength block.length block
        [] = .ok out :=
      decodeSequences_of_reads le_rfl (by omega) (by omega) hreads
    simp only [decodeLz4Block, configuredLimit, boundedLength]
    rw [require_of hlimits.maxInputLength, ok_bind, require_of hlimits.maxOutputLength, ok_bind,
      require_of (Int.natCast_nonneg _), ok_bind, require_of hlimits.input, ok_bind,
      require_of hoffer.1, ok_bind, require_of hoffer.2, ok_bind, require_of hne, ok_bind,
      hdecode, ok_bind, require_of (by omega), ok_bind]

end Blocks
end OpenRfc.Lz4
