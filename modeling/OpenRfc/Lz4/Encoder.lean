import OpenRfc.Foundation.Backreference
import OpenRfc.Foundation.Bytes
import OpenRfc.Foundation.Fallible

/-!
Raw blocks of the LZ4 format. A block is a list of sequences, each with a token, a run of
literals and a reference into what has been decoded; the last one has literals only.
-/

namespace OpenRfc.Lz4
open Backreference Fallible

def maxLz4BlockLength : Nat := 16 * 1024 * 1024
def maxLz4EncodedBlockLength : Nat := maxLz4BlockLength + maxLz4BlockLength / 255 + 16

inductive Lz4BlockDecodeErrorCode
  | invalidLength
  | inputLimitExceeded
  | outputLimitExceeded
  | truncatedInput
  | invalidOffset
  | outputLengthMismatch
  | outputOverrun
deriving DecidableEq, Repr

structure Lz4BlockDecodeError where
  code : Lz4BlockDecodeErrorCode
  message : String
deriving DecidableEq, Repr

structure Lz4BlockDecodeOptions where
  maxInputLength : Int := maxLz4EncodedBlockLength
  maxOutputLength : Int := maxLz4BlockLength
deriving DecidableEq, Repr

def boundedLength (value : Int) (label : String) (maximum : Int)
    (maximumCode : Lz4BlockDecodeErrorCode) : Except Lz4BlockDecodeError Unit := do
  require (0 ≤ value) ⟨.invalidLength, s!"{label} must be a non-negative safe integer"⟩
  require (value ≤ maximum)
    ⟨maximumCode, s!"{label} {value} exceeds configured limit {maximum}"⟩

def configuredLimit (limit maximum : Int) (label : String) : Except Lz4BlockDecodeError Unit :=
  require (0 ≤ limit ∧ limit ≤ maximum)
    ⟨.invalidLength, s!"{label} must be an integer in 0..{maximum}"⟩

/-- The bytes behind a length which is as large as its half of the token allows. -/
def readExtension (maxOutputLength : Int) (kind : String) :
    Nat → Bytes → Except Lz4BlockDecodeError (Nat × Bytes)
  | _, [] => .error ⟨.truncatedInput, s!"LZ4 {kind} length extension is truncated"⟩
  | length, extension :: source =>
    let length := length + extension.toNat
    if (length : Int) > maxOutputLength then
      .error ⟨.outputOverrun, s!"LZ4 {kind} length exceeds the configured output bound"⟩
    else if extension ≠ 0xff then .ok (length, source)
    else readExtension maxOutputLength kind length source

def readExtendedLength (maxOutputLength : Int) (base : Nat) (kind : String) (source : Bytes) :
    Except Lz4BlockDecodeError (Nat × Bytes) :=
  if base ≠ 15 then .ok (base, source) else readExtension maxOutputLength kind base source

def readUInt16LE (source : Bytes) : Nat := Bytes.number (source.take 2).reverse

/-- The loop of the decoder. Every round reads a token at least, so that the length of the
block bounds the rounds. -/
def decodeSequences (outputLength : Nat) (maxOutputLength : Int) :
    Nat → Bytes → Bytes → Except Lz4BlockDecodeError Bytes
  | 0, _, output => .ok output
  | _ + 1, [], output => .ok output
  | fuel + 1, token :: source, output => do
    let (literalLength, source) ←
      readExtendedLength maxOutputLength (token >>> 4).toNat "literal" source
    require (literalLength ≤ source.length)
      ⟨.truncatedInput, "LZ4 literal run extends past the compressed block"⟩
    require (output.length + literalLength ≤ outputLength)
      ⟨.outputOverrun, "LZ4 literal run exceeds the declared output length"⟩
    let output := output ++ source.take literalLength
    let source := source.drop literalLength
    if source = [] then .ok output
    else do
      require (2 ≤ source.length) ⟨.truncatedInput, "LZ4 match offset is truncated"⟩
      let matchOffset := readUInt16LE source
      let source := source.drop 2
      require (matchOffset ≠ 0 ∧ matchOffset ≤ output.length)
        ⟨.invalidOffset, "LZ4 match offset does not reference decoded output"⟩
      let (extendedLength, source) ←
        readExtendedLength maxOutputLength (token &&& 0x0f).toNat "match" source
      let matchLength := extendedLength + 4
      require (output.length + matchLength ≤ outputLength)
        ⟨.outputOverrun, "LZ4 match exceeds the declared output length"⟩
      decodeSequences outputLength maxOutputLength fuel source
        (copy output matchOffset matchLength)

def decodeLz4Block (input : Bytes) (outputLength : Int) (options : Lz4BlockDecodeOptions) :
    Except Lz4BlockDecodeError Bytes := do
  configuredLimit options.maxInputLength maxLz4EncodedBlockLength "maxInputLength"
  configuredLimit options.maxOutputLength maxLz4BlockLength "maxOutputLength"
  boundedLength input.length "LZ4 input length" options.maxInputLength .inputLimitExceeded
  boundedLength outputLength "LZ4 output length" options.maxOutputLength .outputLimitExceeded
  require (input ≠ []) ⟨.truncatedInput, "LZ4 block is missing its first sequence token"⟩
  let output ← decodeSequences outputLength.toNat options.maxOutputLength input.length input []
  require (output.length = outputLength.toNat)
    ⟨.outputLengthMismatch,
      s!"LZ4 block produced {output.length} bytes; expected {outputLength}"⟩
  .ok output

/-!
The encoder of blocks. It looks up the last position at which the hash of four bytes has been
seen, compares the bytes there with those at the position it has reached, and encodes what
agrees as a reference. Its output is written into a buffer of a fixed size.
-/


inductive Lz4BlockEncodeErrorCode
  | invalidLength
  | inputLimitExceeded
  | outputLimitExceeded
deriving DecidableEq, Repr

structure Lz4BlockEncodeError where
  code : Lz4BlockEncodeErrorCode
  message : String
deriving DecidableEq, Repr

structure Lz4BlockEncodeOptions where
  maxInputLength : Int := maxLz4BlockLength
  maxOutputLength : Int := maxLz4EncodedBlockLength
deriving DecidableEq, Repr

def configuredEncodeLimit (limit maximum : Int) (label : String) :
    Except Lz4BlockEncodeError Unit :=
  require (0 ≤ limit ∧ limit ≤ maximum)
    ⟨.invalidLength, s!"{label} must be an integer in 0..{maximum}"⟩

def encodedLengthBound (inputLength : Nat) : Nat :=
  if inputLength = 0 then 1 else inputLength + inputLength / 255 + 16

/-- The buffer which is written: its capacity, and the limit which errors name. -/
structure OutputBuffer where
  capacity : Nat
  maxOutputLength : Int
deriving DecidableEq, Repr

namespace OutputBuffer
variable (buffer : OutputBuffer)

/-- `requireOutput`, and the bytes behind those which have been written. -/
def append (output data : Bytes) : Except Lz4BlockEncodeError Bytes := do
  require (output.length + data.length ≤ buffer.capacity)
    ⟨.outputLimitExceeded,
      s!"LZ4 encoded block exceeds configured limit {buffer.maxOutputLength}"⟩
  .ok (output ++ data)

def writeByte (output : Bytes) (value : Nat) : Except Lz4BlockEncodeError Bytes :=
  buffer.append output [UInt8.ofNat value]

/-- The loop of `writeExtendedLength`. -/
def writeRemainder (output : Bytes) (remainder : Nat) : Except Lz4BlockEncodeError Bytes :=
  if 0xff ≤ remainder then do
    let output ← buffer.writeByte output 0xff
    writeRemainder output (remainder - 0xff)
  else buffer.writeByte output remainder
termination_by remainder

def writeExtendedLength (output : Bytes) (length : Nat) : Except Lz4BlockEncodeError Bytes :=
  if length < 15 then .ok output else buffer.writeRemainder output (length - 15)

def writeSource (output source : Bytes) (start length : Nat) :
    Except Lz4BlockEncodeError Bytes :=
  buffer.append output (Bytes.slice source start length)

def writeUInt16LE (output : Bytes) (value : Nat) : Except Lz4BlockEncodeError Bytes :=
  buffer.append output (Bytes.bigEndian 2 value).reverse

end OutputBuffer

section Search
variable (source : Bytes)

def readUInt32LE (offset : Nat) : Nat := Bytes.number (Bytes.slice source offset 4).reverse

/-- `Math.imul` keeps the low 32 bits of the product, of which the upper half is taken. -/
def hashAt (offset : Nat) : Nat := readUInt32LE source offset * 0x9e3779b1 % 2 ^ 32 / 2 ^ 16

def matchEndLimit : Nat := source.length - 5

/-- The loop which extends a match of four bytes. -/
def extendMatch (candidate position matchLength : Nat) : Nat :=
  if position + matchLength < matchEndLimit source ∧
      source[candidate + matchLength]? = source[position + matchLength]? then
    extendMatch candidate position (matchLength + 1)
  else matchLength
termination_by matchEndLimit source - (position + matchLength)

/-- The positions inside a match, as far as four bytes follow, are entered into the table. -/
def enterPositions (hashTable : Nat → Int) (matchStart position : Nat) : Nat → Int :=
  (List.range' (matchStart + 1)
      (min position (source.length - 3) - (matchStart + 1))).foldl
    (fun hashTable update => Function.update hashTable (hashAt source update) update) hashTable

structure Search where
  hashTable : Nat → Int
  anchor : Nat
  position : Nat
  output : Bytes

def Search.initial : Search := ⟨fun _ => -1, 0, 0, []⟩

theorem le_extendMatch (candidate position matchLength : Nat) :
    matchLength ≤ extendMatch source candidate position matchLength := by
  induction h : matchEndLimit source - (position + matchLength) using Nat.strongRecOn
    generalizing matchLength with
  | _ n ih =>
      rw [extendMatch]
      split
      · rename_i hc
        exact (Nat.le_succ _).trans (ih _ (by omega) _ rfl)
      · exact le_rfl

/-- The token and the literals of a sequence, its offset, and the rest of its match length. -/
def writeSequence (buffer : OutputBuffer) (output : Bytes) (anchor position distance
    matchLength : Nat) : Except Lz4BlockEncodeError Bytes := do
  let literalLength := position - anchor
  let encodedMatchLength := matchLength - 4
  let output ← buffer.writeByte output
    ((min literalLength 15) <<< 4 ||| min encodedMatchLength 15)
  let output ← buffer.writeExtendedLength output literalLength
  let output ← buffer.writeSource output source anchor literalLength
  let output ← buffer.writeUInt16LE output distance
  buffer.writeExtendedLength output encodedMatchLength

/-- The main loop, which ends twelve bytes before the end of the source. -/
def searchMatches (buffer : OutputBuffer) (s : Search) : Except Lz4BlockEncodeError Search :=
  if s.position + 12 ≤ source.length then
    let hash := hashAt source s.position
    let candidate := s.hashTable hash
    let hashTable := Function.update s.hashTable hash (s.position : Int)
    let distance := s.position - candidate
    if candidate < 0 ∨ distance > 0xffff ∨
        readUInt32LE source candidate.toNat ≠ readUInt32LE source s.position then
      searchMatches buffer { s with hashTable, position := s.position + 1 }
    else do
      let matchLength := extendMatch source candidate.toNat s.position 4
      let output ←
        writeSequence source buffer s.output s.anchor s.position distance.toNat matchLength
      let position := s.position + matchLength
      let hashTable := enterPositions source hashTable s.position position
      searchMatches buffer { hashTable, anchor := position, position, output }
  else .ok s
termination_by source.length - s.position
decreasing_by
  · omega
  · have hle :=
      le_extendMatch source (s.hashTable (hashAt source s.position)).toNat s.position 4
    omega

end Search

def encodeLz4Block (source : Bytes) (options : Lz4BlockEncodeOptions) :
    Except Lz4BlockEncodeError Bytes := do
  configuredEncodeLimit options.maxInputLength maxLz4BlockLength "maxInputLength"
  configuredEncodeLimit options.maxOutputLength maxLz4EncodedBlockLength "maxOutputLength"
  require ((source.length : Int) ≤ options.maxInputLength)
    ⟨.inputLimitExceeded,
      s!"LZ4 input length {source.length} exceeds configured limit {options.maxInputLength}"⟩
  let buffer : OutputBuffer :=
    ⟨min (encodedLengthBound source.length) options.maxOutputLength.toNat,
      options.maxOutputLength⟩
  if source.length = 0 then buffer.writeByte [] 0
  else do
    let s ← searchMatches source buffer .initial
    let finalLiteralLength := source.length - s.anchor
    let output ← buffer.writeByte s.output ((min finalLiteralLength 15) <<< 4)
    let output ← buffer.writeExtendedLength output finalLiteralLength
    buffer.writeSource output source s.anchor finalLiteralLength

end OpenRfc.Lz4
