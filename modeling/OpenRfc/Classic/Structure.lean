import OpenRfc.Classic.AbapChar
import OpenRfc.Classic.StructureDefinition

/-!
Structures of a fixed layout. The value of a field is written at its place in a buffer of zeros, and
the gap behind a character field is filled up to the field which follows.
-/

namespace OpenRfc.Classic
open Fallible Values
open DecimalFloat (DecimalFloatFormat DECF16 DECF34 encodeDecimalFloat decodeDecimalFloat)

section Values
variable (host : Host) (field : RfcStructureField) (fieldPath : String)

def int4Min : Int := -0x80000000
def int4Max : Int := 0x7fffffff

def initialValue (int8Mode : ClassicInt8Mode) : Except String RfcValue :=
  match field.exid with
  | .temporal exid => .ok (.text exid.initialValue)
  | .char => .ok (.text [])
  | .numc => do
    let characters ← characterLength field fieldPath
    .ok (.text (List.replicate characters 0x30))
  | .date => .ok (.text (List.replicate 8 0x30))
  | .time => .ok (.text (List.replicate 6 0x30))
  | .raw => .ok (.bytes [])
  | .float | .int4 | .int2 | .int1 => .ok (.number Double.zero)
  | .int8 => .ok (classicInt8InitialValue int8Mode)
  | .packed | .decf16 | .decf34 => .ok (.text [0x30])
  | _ => .error (notImplemented field fieldPath)

/-- An integer within the bounds of its type, in two's complement. -/
def encodeInteger (value : RfcValue) (minimum maximum : Int) (width : Nat) : Except String Bytes := do
  let n ← integer value minimum maximum s!"{fieldPath} must be an integer in {minimum}..{maximum}"
  .ok (Bytes.signedLittleEndian width n)

/-- The text of a decimal number. The sign of zero is kept, and an empty text is no zero. -/
def decimalFloatText (value : RfcValue) : Except String JsString :=
  match value with
  | .number d => .ok (if d = ⟨true, 0, 0⟩ then [0x2d, 0x30] else host.numberText d)
  | .text s => .ok s
  | .bigint n => .ok (Numeral.intText n)
  | .primitive => .error s!"{fieldPath} expects a string, number, bigint, or decimal object"
  | value =>
    match host.objectText value with
    | none => .error s!"{fieldPath} expects a string, number, bigint, or decimal object"
    | some none => .error s!"{fieldPath} decimal object's toString() must return a string"
    | some (some text) => .ok text

def encodeDecimalFloatValue (format : DecimalFloatFormat) (value : RfcValue) : Except String Bytes := do
  let text ← decimalFloatText host fieldPath value
  encodeDecimalFloat format fieldPath text

/-- `typeof value === "string"` -/
def assertText (value : RfcValue) (error : String) : Except String Unit :=
  match value with
  | .text _ => .ok ()
  | _ => .error error

/-- The bytes which `writeValue` copies to the offset of a field. -/
def encodeValue (value : RfcValue) (int8Mode : ClassicInt8Mode) : Except String Bytes :=
  match field.exid with
  | .temporal exid => do
    assertWidth field fieldPath exid.specification.byteLength (temporalWidthError exid)
    encodeClassicTemporal fieldPath exid value
  | .char =>
    match value with
    | .text s => do
      let characters ← characterLength field fieldPath
      encodeAbapChar s characters
    | _ => .error s!"{fieldPath} expects a string"
  | .numc => do
    let characters ← characterLength field fieldPath
    match value with
    | .text s =>
      if isDigits s.length s ∧ s.length ≤ characters then
        encodeAbapChar (List.replicate (characters - s.length) 0x30 ++ s) characters
      else .error s!"{fieldPath} expects at most {characters} decimal digits"
    | _ => .error s!"{fieldPath} expects at most {characters} decimal digits"
  | .date => do
    assertWidth field fieldPath 16 "DATE must occupy 16 Unicode bytes"
    assertText value s!"{fieldPath} expects YYYYMMDD"
    let wire ← classicDateWireText value fieldPath
    .ok wire.utf16le
  | .time => do
    assertWidth field fieldPath 12 "TIME must occupy 12 Unicode bytes"
    assertText value s!"{fieldPath} expects HHMMSS"
    let wire ← classicTimeWireText value fieldPath
    .ok wire.utf16le
  | .raw =>
    match value with
    | .bytes bytes => do
      require (bytes.length ≤ field.internalLength)
        s!"{fieldPath} accepts at most {field.internalLength} bytes"
      .ok bytes
    | _ => .error s!"{fieldPath} expects Uint8Array bytes"
  | .float =>
    match value with
    | .number d => do
      require (field.internalLength = 8 ∧ d.isFinite) s!"{fieldPath} expects a finite 8-byte float"
      .ok d.littleEndian
    | _ => .error s!"{fieldPath} expects a finite 8-byte float"
  | .int4 => do
    assertWidth field fieldPath 4 "INT4 must occupy 4 bytes"
    encodeInteger fieldPath value int4Min int4Max 4
  | .int2 => do
    assertWidth field fieldPath 2 "INT2 must occupy 2 bytes"
    encodeInteger fieldPath value (-0x8000) 0x7fff 2
  | .int1 => do
    assertWidth field fieldPath 1 "INT1 must occupy 1 byte"
    let n ← integer value 0 0xff s!"{fieldPath} must be an integer in 0..255"
    .ok (Bytes.littleEndian 1 n.toNat)
  | .int8 => do
    assertWidth field fieldPath 8 "INT8 must occupy 8 bytes"
    let n ← encodeClassicInt8 value int8Mode fieldPath
    .ok (Bytes.signedLittleEndian 8 n)
  | .packed => encodePackedDecimal host fieldPath value field.internalLength field.decimals
  | .decf16 => do
    assertWidth field fieldPath 8 "DECF16 must occupy 8 bytes"
    encodeDecimalFloatValue host fieldPath DECF16 value
  | .decf34 => do
    assertWidth field fieldPath 16 "DECF34 must occupy 16 bytes"
    encodeDecimalFloatValue host fieldPath DECF34 value
  | _ => .error (notImplemented field fieldPath)

def writeValue (target : Bytes) (value : RfcValue) (int8Mode : ClassicInt8Mode) :
    Except String Bytes := do
  let bytes ← encodeValue host field fieldPath value int8Mode
  .ok (target.write field.offset bytes)

/-- The value in the bytes of a field. -/
def decodeValue (value : Bytes) (int8Mode : ClassicInt8Mode) (bcd : ClassicBcdMode) :
    Except String RfcValue :=
  match field.exid with
  | .temporal exid => do
    let s ← decodeClassicTemporal fieldPath exid value
    .ok (.text s)
  | .char | .numc => do
    let characters ← characterLength field fieldPath
    let s ← decodeAbapChar value characters
    .ok (.text s)
  | .date => do
    let characters ← characterLength field fieldPath
    let decoded ← decodeAbapFixedChar value characters
    let s ← classicDatePublicText decoded fieldPath
    .ok (.text s)
  | .time => do
    let characters ← characterLength field fieldPath
    let decoded ← decodeAbapFixedChar value characters
    let s ← classicTimePublicText decoded fieldPath
    .ok (.text s)
  | .raw => .ok (.bytes value)
  | .float => do
    assertWidth field fieldPath 8 "FLOAT must occupy 8 bytes"
    let decoded := Double.ofLittleEndian value
    require decoded.isFinite s!"{fieldPath} received a non-finite 8-byte float"
    .ok (.number decoded)
  | .int4 => do
    assertWidth field fieldPath 4 "INT4 must occupy 4 bytes"
    .ok (.number (Double.ofInt (Bytes.signedLittleNumber value)))
  | .int2 => do
    assertWidth field fieldPath 2 "INT2 must occupy 2 bytes"
    .ok (.number (Double.ofInt (Bytes.signedLittleNumber value)))
  | .int1 => do
    assertWidth field fieldPath 1 "INT1 must occupy 1 byte"
    .ok (.number (Double.ofInt (Bytes.littleNumber value)))
  | .int8 => do
    assertWidth field fieldPath 8 "INT8 must occupy 8 bytes"
    decodeClassicInt8 (Bytes.signedLittleNumber value) int8Mode fieldPath
  | .packed => do
    let s ← decodePackedDecimal fieldPath value field.decimals
    projectClassicBcdOutput s bcd
  | .decf16 => do
    let s ← decodeDecimalFloat DECF16 fieldPath value
    projectClassicBcdOutput s bcd
  | .decf34 => do
    let s ← decodeDecimalFloat DECF34 fieldPath value
    projectClassicBcdOutput s bcd
  | _ => .error (notImplemented field fieldPath)

def readValue (source : Bytes) (int8Mode : ClassicInt8Mode) (bcd : ClassicBcdMode) :
    Except String RfcValue :=
  decodeValue field fieldPath (source.slice field.offset field.internalLength) int8Mode bcd

end Values

section Structures
variable (host : Host) (definition : RfcStructureDefinition)

def assertFixedStructure : Except String Unit := do
  let dynamic ← classicStructureHasDynamicFields definition host
  require (dynamic = false)
    (s!"{definition.name.text} contains STRING/XSTRING fields and requires " ++
      "xRFC XML serialization")

/-- The value of a field, which is the initial one where none is supplied. -/
def fieldValue (field : RfcStructureField) (input : RfcRecord) (int8Mode : ClassicInt8Mode) :
    Except String RfcValue :=
  match input.lookup field.fieldName with
  | some value => .ok value
  | none => initialValue field (path definition field) int8Mode

/-- Fill the gap behind a character field with spaces or zeros. -/
def fillGap (field : RfcStructureField) (nextOffset : Nat) (target : Bytes) : Except String Bytes :=
  if field.exid = .char ∨ field.exid = .numc then do
    let paddingLength := nextOffset - field.byteEnd
    require (paddingLength % 2 = 0) s!"{path definition field} has an odd Unicode alignment tail"
    let fill : UInt16 := if field.exid = .char then 0x20 else 0x30
    .ok (target.write field.byteEnd (JsString.utf16le (List.replicate (paddingLength / 2) fill)))
  else .ok target

def encodeFields (input : RfcRecord) (int8Mode : ClassicInt8Mode) :
    List RfcStructureField → Bytes → Except String Bytes
  | [], target => .ok target
  | field :: fields, target => do
    let value ← fieldValue definition field input int8Mode
    let written ← writeValue host field (path definition field) target value int8Mode
    let nextOffset := (fields.head?.map (·.offset)).getD definition.byteLength
    let filled ← fillGap definition field nextOffset written
    encodeFields input int8Mode fields filled

def encodeClassicStructure (input : RfcRecord) (int8Mode : ClassicInt8Mode) : Except String Bytes := do
  let normalized ← validateClassicStructureCodec definition host none
  assertFixedStructure host normalized
  match input.find? fun entry => entry.1 ∉ normalized.fields.map (·.fieldName) with
  | some (name, _) => .error s!"{normalized.name.text} contains unknown field {name.text}"
  | none => encodeFields host normalized input int8Mode normalized.fields (Bytes.alloc normalized.byteLength)

def decodeFields (source : Bytes) (int8Mode : ClassicInt8Mode) (bcd : ClassicBcdMode) :
    List RfcStructureField → Except String RfcRecord
  | [] => .ok []
  | field :: fields => do
    let value ← readValue field (path definition field) source int8Mode bcd
    let rest ← decodeFields source int8Mode bcd fields
    .ok ((field.fieldName, value) :: rest)

def decodeClassicStructure (value : Bytes) (int8Mode : ClassicInt8Mode) (bcd : ClassicBcdMode) :
    Except String RfcRecord := do
  let normalized ← validateClassicStructureCodec definition host none
  assertFixedStructure host normalized
  require (value.length = normalized.byteLength)
    (s!"{normalized.name.text} structure must contain exactly {normalized.byteLength} " ++
      s!"bytes; received {value.length}")
  decodeFields normalized value int8Mode bcd normalized.fields

end Structures
end OpenRfc.Classic
