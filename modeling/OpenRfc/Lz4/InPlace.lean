import OpenRfc.Lz4.Grammar

/-!
The decoder as it fills its buffer. The buffer is allocated without being cleared, so that a
cell has no value until it is written; reading such a cell is an error of its own here, which
the decoder is shown never to run into.
-/

namespace OpenRfc.Lz4
open Backreference Fallible

inductive InPlaceError
  | unwrittenRead (offset : Nat)
  | rejected (error : Lz4BlockDecodeError)
deriving DecidableEq, Repr

/-- The cells of the buffer, `none` where nothing has been written yet. -/
abbrev Cells := List (Option UInt8)

namespace Cells

def allocUnsafe (outputLength : Nat) : Cells := List.replicate outputLength none

def write (cells : Cells) (offset : Nat) (data : Bytes) : Cells :=
  cells.take offset ++ data.map some ++ cells.drop (offset + data.length)

/-- The loop which copies a match, one byte at a time. -/
def copyMatch (matchOffset : Nat) : Nat → Cells → Nat → Except InPlaceError Cells
  | 0, cells, _ => .ok cells
  | matchLength + 1, cells, outputOffset =>
      match cells[outputOffset - matchOffset]? with
      | some (some byte) =>
          copyMatch matchOffset matchLength (cells.write outputOffset [byte]) (outputOffset + 1)
      | _ => .error (.unwrittenRead (outputOffset - matchOffset))

/-- A buffer whose first cells hold `output`. -/
def filled (outputLength : Nat) (output : Bytes) : Cells :=
  output.map some ++ List.replicate (outputLength - output.length) none

end Cells

section Decoder

def rejecting {α : Type} (result : Except Lz4BlockDecodeError α) : Except InPlaceError α :=
  result.mapError .rejected

def decodeSequencesInPlace (outputLength : Nat) (maxOutputLength : Int) :
    Nat → Bytes → Cells → Nat → Except InPlaceError (Cells × Nat)
  | 0, _, cells, outputOffset => .ok (cells, outputOffset)
  | _ + 1, [], cells, outputOffset => .ok (cells, outputOffset)
  | fuel + 1, token :: source, cells, outputOffset => do
    let (literalLength, source) ← rejecting
      (readExtendedLength maxOutputLength (token >>> 4).toNat "literal" source)
    rejecting (require (literalLength ≤ source.length)
      ⟨.truncatedInput, "LZ4 literal run extends past the compressed block"⟩)
    rejecting (require (outputOffset + literalLength ≤ outputLength)
      ⟨.outputOverrun, "LZ4 literal run exceeds the declared output length"⟩)
    let cells := cells.write outputOffset (source.take literalLength)
    let outputOffset := outputOffset + literalLength
    let source := source.drop literalLength
    if source = [] then .ok (cells, outputOffset)
    else do
      rejecting (require (2 ≤ source.length) ⟨.truncatedInput, "LZ4 match offset is truncated"⟩)
      let matchOffset := readUInt16LE source
      let source := source.drop 2
      rejecting (require (matchOffset ≠ 0 ∧ matchOffset ≤ outputOffset)
        ⟨.invalidOffset, "LZ4 match offset does not reference decoded output"⟩)
      let (extendedLength, source) ← rejecting
        (readExtendedLength maxOutputLength (token &&& 0x0f).toNat "match" source)
      let matchLength := extendedLength + 4
      rejecting (require (outputOffset + matchLength ≤ outputLength)
        ⟨.outputOverrun, "LZ4 match exceeds the declared output length"⟩)
      let cells ← cells.copyMatch matchOffset matchLength outputOffset
      decodeSequencesInPlace outputLength maxOutputLength fuel source cells
        (outputOffset + matchLength)

/-- `decodeLz4Block` over the cells of its buffer. -/
def decodeInPlace (input : Bytes) (outputLength : Int) (options : Lz4BlockDecodeOptions) :
    Except InPlaceError Cells := do
  rejecting (configuredLimit options.maxInputLength maxLz4EncodedBlockLength "maxInputLength")
  rejecting (configuredLimit options.maxOutputLength maxLz4BlockLength "maxOutputLength")
  rejecting
    (boundedLength input.length "LZ4 input length" options.maxInputLength .inputLimitExceeded)
  rejecting
    (boundedLength outputLength "LZ4 output length" options.maxOutputLength .outputLimitExceeded)
  rejecting (require (input ≠ [])
    ⟨.truncatedInput, "LZ4 block is missing its first sequence token"⟩)
  let (cells, outputOffset) ← decodeSequencesInPlace outputLength.toNat options.maxOutputLength
    input.length input (.allocUnsafe outputLength.toNat) 0
  rejecting (require (outputOffset = outputLength.toNat)
    ⟨.outputLengthMismatch,
      s!"LZ4 block produced {outputOffset} bytes; expected {outputLength}"⟩)
  .ok cells

end Decoder

section Simulation
variable {outputLength : Nat} {maxOutputLength : Int} {output : Bytes}

/-- Two programs agree when they agree behind what their first step returns. -/
theorem rejecting_bind_congr {α β γ : Type} {first : Except Lz4BlockDecodeError α}
    {next : α → Except Lz4BlockDecodeError β} {image : β → γ}
    {next' : α → Except InPlaceError γ}
    (h : ∀ a, first = .ok a → next' a = rejecting ((next a).map image)) :
    (rejecting first >>= next') = rejecting ((first >>= next).map image) := by
  cases first with
  | error e => rfl
  | ok a => exact h a rfl

theorem write_filled (data : Bytes) :
    (Cells.filled outputLength output).write output.length data =
      Cells.filled outputLength (output ++ data) := by
  have htake : (Cells.filled outputLength output).take output.length = output.map some :=
    List.take_left' (List.length_map _)
  have hdrop : (Cells.filled outputLength output).drop (output.length + data.length) =
      List.replicate (outputLength - (output ++ data).length) none := by
    rw [Cells.filled, ← List.drop_drop, List.drop_left' (List.length_map _), List.drop_replicate,
      List.length_append, Nat.sub_add_eq]
  rw [Cells.write, htake, hdrop, Cells.filled, List.map_append]

theorem getElem?_filled {k : Nat} (h : k < output.length) :
    (Cells.filled outputLength output)[k]? = some output[k]? := by
  rw [Cells.filled, List.getElem?_append_left (by rw [List.length_map]; exact h),
    List.getElem?_map, List.getElem?_eq_getElem h]
  rfl

/-- Every byte which a match copies has been written, by the match itself at the latest. -/
theorem copyMatch_filled {distance matchLength : Nat}
    (hd : 1 ≤ distance ∧ distance ≤ output.length)
    (hl : output.length + matchLength ≤ outputLength) :
    (Cells.filled outputLength output).copyMatch distance matchLength output.length =
      .ok (Cells.filled outputLength (copy output distance matchLength)) := by
  induction matchLength generalizing output with
  | zero => rfl
  | succ matchLength ih =>
      have hlt : output.length - distance < output.length := by omega
      have hbyte : output[output.length - distance]? = some output[output.length - distance] :=
        List.getElem?_eq_getElem hlt
      have hlength : output.length + 1 = (output ++ [output[output.length - distance]]).length := by
        rw [List.length_append]
        rfl
      rw [Cells.copyMatch, getElem?_filled hlt, hbyte]
      simp only
      rw [write_filled, hlength, ih (by omega) (by omega),
        copy, hbyte]
      rfl

/-- The loop in the buffer is the loop which appends. -/
theorem decodeSequencesInPlace_filled {fuel : Nat} {source : Bytes}
    (h : output.length ≤ outputLength) :
    decodeSequencesInPlace outputLength maxOutputLength fuel source
        (Cells.filled outputLength output) output.length =
      rejecting ((decodeSequences outputLength maxOutputLength fuel source output).map
        fun out => (Cells.filled outputLength out, out.length)) := by
  induction fuel generalizing source output with
  | zero => rfl
  | succ fuel ih =>
      cases source with
      | nil => rfl
      | cons byte source =>
          rw [decodeSequencesInPlace, decodeSequences]
          apply rejecting_bind_congr
          rintro ⟨literalLength, behind⟩ -
          apply rejecting_bind_congr
          intro _ hfits
          apply rejecting_bind_congr
          intro _ _
          have hlength : (behind.take literalLength).length = literalLength :=
            List.length_take_of_le (require_eq_ok.mp hfits)
          have hnext : output.length + literalLength =
              (output ++ behind.take literalLength).length := by
            rw [List.length_append, hlength]
          rw [write_filled, hnext]
          rcases eq_or_ne (behind.drop literalLength) [] with hend | hmore
          · simp only [if_pos hend]
            rfl
          simp only [if_neg hmore]
          apply rejecting_bind_congr
          intro _ _
          apply rejecting_bind_congr
          intro _ hoffset
          apply rejecting_bind_congr
          rintro ⟨extendedLength, rest⟩ -
          apply rejecting_bind_congr
          intro _ hmatch
          obtain ⟨hne, hinside⟩ := require_eq_ok.mp hoffset
          have hroom := require_eq_ok.mp hmatch
          have hdistance := And.intro (Nat.pos_of_ne_zero hne) hinside
          have hcopy := length_copy hdistance (extendedLength + 4)
          rw [copyMatch_filled hdistance hroom, ok_bind, ← hcopy]
          exact ih (hcopy.trans_le hroom)

theorem decodeInPlace_eq (input : Bytes) (outputLength : Int)
    (options : Lz4BlockDecodeOptions) :
    decodeInPlace input outputLength options =
      rejecting ((decodeLz4Block input outputLength options).map (List.map some)) := by
  unfold decodeInPlace decodeLz4Block
  repeat
    apply rejecting_bind_congr
    intro _ _
  have hrun : decodeSequencesInPlace outputLength.toNat options.maxOutputLength input.length input
      (Cells.filled outputLength.toNat []) ([] : Bytes).length = _ :=
    decodeSequencesInPlace_filled (Nat.zero_le _)
  have hempty : Cells.filled outputLength.toNat [] = .allocUnsafe outputLength.toNat := rfl
  rw [hempty] at hrun
  show (decodeSequencesInPlace _ _ _ _ _ ([] : Bytes).length >>= _) = _
  rw [hrun]
  cases decodeSequences outputLength.toNat options.maxOutputLength input.length input [] with
  | error e => rfl
  | ok out =>
      show (rejecting (require _ _) >>= _) = _
      apply rejecting_bind_congr
      intro _ hfull
      have hlength := require_eq_ok.mp hfull
      simp [rejecting, Except.map, Except.mapError, Cells.filled, hlength]

end Simulation

/-- The decoder accepts the blocks of the grammar and those which end right behind a match, if
they stand for as many bytes as have been declared. It never reads a byte of its buffer which
it has not written. -/
theorem decodeLz4Block_spec (input : Bytes) (outputLength : Int)
    (options : Lz4BlockDecodeOptions) :
    (∀ out, decodeLz4Block input outputLength options = .ok out ↔
      WithinLimits input outputLength options ∧ (Denotes input out ∨ DenotesOpen input out) ∧
        (out.length : Int) = outputLength) ∧
    ((∃ error, decodeLz4Block input outputLength options = .error error) ↔
      ¬(WithinLimits input outputLength options ∧
        ∃ out, (Denotes input out ∨ DenotesOpen input out) ∧ (out.length : Int) = outputLength)) ∧
    decodeInPlace input outputLength options =
      rejecting ((decodeLz4Block input outputLength options).map (List.map some)) := by
  refine ⟨fun out => decodeLz4Block_eq_ok, ?_, decodeInPlace_eq input outputLength options⟩
  constructor
  · rintro ⟨error, herror⟩ ⟨hlimits, out, hdenotes⟩
    rw [decodeLz4Block_eq_ok.mpr ⟨hlimits, hdenotes⟩] at herror
    cases herror
  · intro hnone
    cases hresult : decodeLz4Block input outputLength options with
    | error error => exact ⟨error, rfl⟩
    | ok out =>
        have h := decodeLz4Block_eq_ok.mp hresult
        exact absurd ⟨h.1, out, h.2⟩ hnone

/-- One literal and a match of nineteen bytes, with nothing behind it. -/
theorem decode_open_block :
    decodeLz4Block [0x1f, 0x78, 0x01, 0x00, 0x00] 20 {} = .ok (List.replicate 20 0x78) ∧
      ¬∃ out, Denotes [0x1f, 0x78, 0x01, 0x00, 0x00] out := by
  refine ⟨by decide +kernel, ?_⟩
  rintro ⟨out, sequences, literals, low, hlow, hvalid, hblock, -⟩
  have hhigh : ((0x1f : UInt8) >>> 4).toNat = 1 := by decide
  have hlength := congrArg List.length hblock
  cases sequences with
  | nil =>
      obtain ⟨hbyte, -⟩ := List.cons.inj hblock
      obtain ⟨hone, -⟩ := token_halves (Nat.min_le_right literals.length 15) hlow
      rw [← hbyte, hhigh] at hone
      have hliterals : literals.length = 1 := by omega
      simp [frontBytes, lastSequence, hliterals, extension] at hlength
  | cons s sequences =>
      obtain ⟨hbyte, -⟩ := List.cons.inj hblock
      have hfifteen : ((0x1f : UInt8) &&& 0x0f).toNat = 15 := by decide
      obtain ⟨hone, hmatch⟩ := token_halves (Nat.min_le_right s.literals.length 15)
        (Nat.min_le_right (s.matchLength - 4) 15)
      rw [token] at hbyte
      rw [← hbyte] at hone hmatch
      have hliterals : s.literals.length = 1 := by omega
      have hlong : 15 ≤ s.matchLength - 4 := by omega
      have hextension := length_extension (s.matchLength - 4)
      rw [if_neg (by omega)] at hextension
      simp [frontBytes, MatchSequence.bytes, sequenceBytes, lastSequence, hliterals,
        extension.eq_1 1, hextension] at hlength
      omega

end OpenRfc.Lz4
