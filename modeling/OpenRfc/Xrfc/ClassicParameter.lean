import OpenRfc.Classic.Structure
import OpenRfc.Xrfc.Markup

/-!
Flat structures and tables as xRFC documents. Every cell is planned before anything is written, and
the reader admits the documents which the writer may write.
-/

namespace OpenRfc.Xrfc
open Fallible Values
open Classic (RfcStructureDefinition RfcStructureField path characterLength int4Min int4Max)

inductive ClassicXrfcKind
  | structured
  | table
deriving DecidableEq, Repr

section Definitions
variable (host : Host) (definition : RfcStructureDefinition)

/-- The types which a cell may have. -/
def isSupportedXrfcField (field : RfcStructureField) : Bool :=
  match field.exid with
  | .int4 | .char | .numc | .date | .time | .raw | .packed | .float | .int8 | .string | .xstring => true
  | _ => false

def assertXrfcFields : List RfcStructureField → Except String Unit
  | [] => .ok ()
  | field :: fields => do
    assertClassicXrfcXmlName field.fieldName s!"{definition.name.text} field name"
    require (isSupportedXrfcField field)
      (s!"{path definition field} type {field.exid.code} is not implemented for the proven xRFC " ++
        "XML subset")
    assertXrfcFields fields

def normalizeDefinition : Except String RfcStructureDefinition := do
  let normalized ← Classic.validateClassicStructureCodec definition host none
  let dynamic ← Classic.classicStructureHasDynamicFields normalized host
  require (dynamic = true) s!"{normalized.name.text} has no STRING/XSTRING field requiring xRFC XML"
  assertXrfcFields normalized normalized.fields
  .ok normalized

def validateClassicXrfcDefinition : Except String RfcStructureDefinition :=
  normalizeDefinition host definition

end Definitions

section Cells

/-- Digits in groups of some widths. -/
def separated (separator : UInt16) : List Nat → JsString → JsString
  | [], s => s
  | [_], s => s
  | width :: widths, s => s.take width ++ separator :: separated separator widths (s.drop width)

def isSeparated (separator : UInt16) : List Nat → JsString → Bool
  | [], s => s = []
  | [width], s => isDigits width s
  | width :: widths, s =>
    isDigits width (s.take width) && (s.drop width).head? = some separator &&
      isSeparated separator widths (s.drop (width + 1))

def dateWidths : List Nat := [4, 2, 2]
def timeWidths : List Nat := [2, 2, 2]
def dash : UInt16 := 0x2d
def colon : UInt16 := 0x3a

inductive PlannedCell
  | text (field : RfcStructureField) (value : JsString) (encodedByteLength : Nat)
  | bytes (field : RfcStructureField) (value : Bytes) (encodedByteLength : Nat)

def PlannedCell.field : PlannedCell → RfcStructureField
  | .text field _ _ => field
  | .bytes field _ _ => field

def PlannedCell.encodedByteLength : PlannedCell → Nat
  | .text _ _ encodedByteLength => encodedByteLength
  | .bytes _ _ encodedByteLength => encodedByteLength

structure PlannedRow where
  cells : List PlannedCell
  encodedByteLength : Nat

variable (host : Host) (field : RfcStructureField) (limits : NormalizedClassicXrfcLimits)
  (int8Mode : ClassicInt8Mode) (path : String)

def integerCell (value : RfcValue) : Except String JsString := do
  let n ← integer value int4Min int4Max s!"{path} expects a signed 32-bit integer"
  .ok (Numeral.intText n)

def initialCell : Except String RfcValue :=
  match field.exid with
  | .int4 | .float => .ok (.number Double.zero)
  | .char | .string | .numc => .ok (.text [])
  | .date => .ok (.text (List.replicate 8 0x30))
  | .time => .ok (.text (List.replicate 6 0x30))
  | .raw | .xstring => .ok (.bytes [])
  | .packed => .ok (.text [0x30])
  | .int8 => .ok (classicInt8InitialValue int8Mode)
  | exid => .error s!"unsupported xRFC field type {exid.code}"

def canonicalDateText (value : RfcValue) : Except String JsString := do
  let date ← assertClassicDate value path
  .ok (if date = [] ∨ date = blanks 8 then [] else separated dash dateWidths date)

def canonicalTimeText (value : RfcValue) : Except String JsString := do
  let time ← assertClassicTime value path
  .ok (if time = [] ∨ time = blanks 6 then [] else separated colon timeWidths time)

/-- `Object.is(value, -0) ? "-0" : String(value)` -/
def floatText (d : Double) : JsString :=
  if d = Double.negativeZero then [0x2d, 0x30] else host.numberText d

def plannedBytesCell (value : Bytes) (exactLength : Option Nat) : Except String PlannedCell := do
  require (∀ exact ∈ exactLength, value.length ≤ exact)
    s!"{path} accepts at most {exactLength.getD 0} bytes"
  let plannedByteLength := exactLength.getD value.length
  let encodedByteLength := (plannedByteLength + 2) / 3 * 4
  require (encodedByteLength ≤ Double.maxSafeInteger ∧ encodedByteLength ≤ limits.maxCellBytes ∧
      encodedByteLength ≤ limits.maxRowBytes ∧ encodedByteLength ≤ limits.maxParameterBytes)
    s!"{path} base64 value exceeds the configured encoded-byte limits"
  .ok (.bytes field (value ++ Bytes.alloc (plannedByteLength - value.length)) encodedByteLength)

/-- The text of a cell which is written as text. -/
def cellText (value : RfcValue) : Except String JsString :=
  match field.exid with
  | .int4 => integerCell path value
  | .char =>
    match value with
    | .text s => do
      assertUnicodeScalarText s path
      let capacity ← characterLength field path
      require (s.length ≤ capacity) s!"{path} does not fit CHAR({capacity})"
      .ok s
    | _ => .error s!"{path} expects a string"
  | .numc => do
    let capacity ← characterLength field path
    require (capacity ≤ min (min limits.maxCellBytes limits.maxRowBytes) limits.maxParameterBytes)
      s!"{path} padded NUM value exceeds the configured encoded-byte limits"
    match value with
    | .text s =>
      if isDigits s.length s ∧ s.length ≤ capacity then
        .ok (List.replicate (capacity - s.length) 0x30 ++ s)
      else .error s!"{path} expects at most {capacity} decimal digits"
    | _ => .error s!"{path} expects at most {capacity} decimal digits"
  | .date => canonicalDateText path value
  | .time => canonicalTimeText path value
  | .packed => do
    let bytes ← encodePackedDecimal host path value field.internalLength field.decimals
    decodePackedDecimal path bytes field.decimals
  | .float =>
    match value with
    | .number d => do
      require d.isFinite s!"{path} expects a finite number"
      .ok (floatText host d)
    | _ => .error s!"{path} expects a finite number"
  | .int8 => do
    let n ← encodeClassicInt8 value int8Mode path
    .ok (Numeral.intText n)
  | .string =>
    match value with
    | .text s => do
      assertUnicodeScalarText s path
      require (0 ∉ s) s!"{path} contains NUL"
      .ok s
    | _ => .error s!"{path} expects Unicode text"
  | _ => .error s!"{path} has an unsupported xRFC field type"

def planCell (value : RfcValue) : Except String PlannedCell :=
  match field.exid with
  | .raw =>
    match value with
    | .bytes bytes => plannedBytesCell field limits path bytes (some field.internalLength)
    | _ => .error s!"{path} expects Uint8Array bytes"
  | .xstring =>
    match value with
    | .bytes bytes => plannedBytesCell field limits path bytes none
    | _ => .error s!"{path} expects Uint8Array bytes"
  | _ => do
    let text ← cellText host field limits int8Mode path value
    let encodedByteLength ← escapedClassicXrfcXmlByteLength text path
    require (encodedByteLength ≤ limits.maxCellBytes)
      s!"{path} XML value exceeds {limits.maxCellBytes} encoded bytes"
    .ok (.text field text encodedByteLength)

end Cells

section Rows
variable (host : Host) (definition : RfcStructureDefinition) (limits : NormalizedClassicXrfcLimits)
  (int8Mode : ClassicInt8Mode)

/-- `<item></item>` -/
def itemName : JsString := [0x69, 0x74, 0x65, 0x6d]

def itemWrapperByteLength : Nat := 13

/-- The own enumerable properties of an object which is no array. -/
def rowProperties : RfcValue → Option RfcRecord
  | .object properties => some properties
  | .bytes bytes => some (bytes.mapIdx fun index byte => (Numeral.intText index, .number (Double.ofInt byte.toNat)))
  | _ => none

/-- The value of a cell, which is the initial one where none is supplied. -/
def suppliedCell (record : RfcRecord) (field : RfcStructureField) : Except String RfcValue :=
  match record.lookup field.fieldName with
  | some value => .ok value
  | none => initialCell field int8Mode

def cellByteLength (cell : PlannedCell) : Nat :=
  classicXrfcOpenTagByteLength cell.field.fieldName + cell.encodedByteLength +
    classicXrfcCloseTagByteLength cell.field.fieldName

/-- The loop over the fields of a row. -/
def planCells (record : RfcRecord) (rowPath : String) :
    List RfcStructureField → Nat → Except String (List PlannedCell × Nat)
  | [], byteLength => .ok ([], byteLength)
  | field :: fields, byteLength => do
    let value ← suppliedCell int8Mode record field
    let cell ← planCell host field limits int8Mode (path definition field) value
    let byteLength ← checkedClassicXrfcLength byteLength (cellByteLength cell) rowPath
    require (byteLength ≤ limits.maxRowBytes)
      s!"{rowPath} XML row exceeds {limits.maxRowBytes} encoded bytes"
    let (cells, byteLength) ← planCells record rowPath fields byteLength
    .ok (cell :: cells, byteLength)

def rowPath (rowIndex : Option Nat) : String :=
  match rowIndex with
  | none => definition.name.text
  | some index => s!"{definition.name.text}[{index}]"

def planRow (input : RfcValue) (itemWrapper : Bool) (rowIndex : Option Nat) : Except String PlannedRow := do
  let rowPath := rowPath definition rowIndex
  match rowProperties input with
  | none => .error s!"{rowPath} expects a structure object"
  | some record =>
    match record.find? fun entry => entry.1 ∉ definition.fields.map (·.fieldName) with
    | some (name, _) => .error s!"{rowPath} contains unknown field {name.text}"
    | none => do
      let (cells, encodedByteLength) ← planCells host definition limits int8Mode record rowPath
        definition.fields (if itemWrapper then itemWrapperByteLength else 0)
      .ok ⟨cells, encodedByteLength⟩

/-- The rows of a parameter, and the length of its document. -/
def appendRows (parameterName : JsString) (kind : ClassicXrfcKind) :
    Nat → List RfcValue → Nat → Except String (List PlannedRow × Nat)
  | _, [], byteLength => .ok ([], byteLength)
  | index, value :: values, byteLength => do
    let row ← planRow host definition limits int8Mode value (kind = .table)
      (if kind = .table then some index else none)
    let byteLength ← checkedClassicXrfcLength byteLength row.encodedByteLength parameterName.text
    require (byteLength ≤ limits.maxParameterBytes)
      s!"{parameterName.text} xRFC XML exceeds {limits.maxParameterBytes} bytes"
    let (rows, byteLength) ← appendRows parameterName kind (index + 1) values byteLength
    .ok (row :: rows, byteLength)

/-- The rows of a table, or the only row of a structure. -/
def parameterRows (parameterName : JsString) (kind : ClassicXrfcKind) (value : RfcValue) :
    Except String (List RfcValue) :=
  match kind with
  | .structured => .ok [value]
  | .table =>
    match value with
    | .array rows => do
      require (rows.length ≤ limits.maxRows)
        s!"{parameterName.text} row count exceeds {limits.maxRows}"
      .ok rows
    | _ => .error s!"{parameterName.text} expects an array of rows"

end Rows

section Writing

def writePlannedCell (target : Target) (cell : PlannedCell) : Target :=
  let target := writeClassicXrfcOpenTag target cell.field.fieldName
  let target := match cell with
    | .text _ value _ => writeEscapedClassicXrfcText target value
    | .bytes _ value _ => writeAscii target (Base64.encode value)
  writeClassicXrfcCloseTag target cell.field.fieldName

def writePlannedRow (itemWrapper : Bool) (target : Target) (row : PlannedRow) : Target :=
  let target := if itemWrapper then writeClassicXrfcOpenTag target itemName else target
  let target := row.cells.foldl writePlannedCell target
  if itemWrapper then writeClassicXrfcCloseTag target itemName else target

/-- The document of planned rows, in a buffer of the planned length. -/
def writeParameter (parameterName : JsString) (kind : ClassicXrfcKind) (rows : List PlannedRow)
    (byteLength : Nat) : Target :=
  let target := writeClassicXrfcOpenTag ⟨Bytes.alloc byteLength, 0⟩ parameterName
  let target := rows.foldl (writePlannedRow (kind = .table)) target
  writeClassicXrfcCloseTag target parameterName

def lengthInvariantFailed (parameterName : JsString) : String :=
  s!"{parameterName.text} xRFC XML encoder length invariant failed"

def encodeClassicXrfcParameter (host : Host) (parameterName : JsString)
    (definition : RfcStructureDefinition) (kind : ClassicXrfcKind) (value : RfcValue)
    (options : ClassicXrfcLimits) (int8Mode : ClassicInt8Mode) : Except String Bytes := do
  assertClassicXrfcXmlName parameterName "xRFC parameter name"
  let normalized ← normalizeDefinition host definition
  let limits ← normalizeClassicXrfcLimits options
  let byteLength := classicXrfcOpenTagByteLength parameterName + classicXrfcCloseTagByteLength parameterName
  require (byteLength ≤ limits.maxParameterBytes)
    s!"{parameterName.text} xRFC XML exceeds {limits.maxParameterBytes} bytes"
  let values ← parameterRows limits parameterName kind value
  let (rows, byteLength) ← appendRows host normalized limits int8Mode parameterName kind 0 values byteLength
  let target := writeParameter parameterName kind rows byteLength
  require (target.offset = byteLength) (lengthInvariantFailed parameterName)
  .ok target.buffer

end Writing

section Reading
variable (host : Host) (numberOf : JsString → Double) (field : RfcStructureField)
  (limits : NormalizedClassicXrfcLimits) (int8Mode : ClassicInt8Mode) (bcd : ClassicBcdMode)

/-- `(?:[eE][+-]?[0-9]+)?$` -/
def isFloatExponent : JsString → Bool
  | [] => true
  | unit :: rest =>
    let (digits, rest) := Numeral.readDigits (Numeral.readSign rest).2
    (unit == 0x65 || unit == 0x45) && !digits.isEmpty && rest.isEmpty

/-- `/^[+-]?(?:(?:[0-9]+(?:\.[0-9]*)?)|(?:\.[0-9]+))(?:[eE][+-]?[0-9]+)?$/u` -/
def isFiniteFloatLexical (s : JsString) : Bool :=
  let (integer, rest) := Numeral.readDigits (Numeral.readSign s).2
  match rest with
  | 0x2e :: rest =>
    let (fraction, rest) := Numeral.readDigits rest
    (!integer.isEmpty || !fraction.isEmpty) && isFloatExponent rest
  | rest => !integer.isEmpty && isFloatExponent rest

def consumeClassicXrfcDecodedBytes (projectedBytes byteLength : Nat) (path : String) :
    Except String Nat := do
  require (byteLength ≤ limits.maxCellBytes)
    s!"{path} decoded value exceeds the {limits.maxCellBytes}-byte cell limit"
  let projected ← checkedClassicXrfcLength projectedBytes byteLength s!"{path} decoded output"
  require (projected ≤ limits.maxParameterBytes)
    s!"{path} decoded output exceeds the {limits.maxParameterBytes}-byte parameter limit"
  .ok projected

/-- The value of a cell, and the projected bytes with the ones of the cell. -/
def decodeCell (path : String) (value : JsString) (projectedBytes : Nat) :
    Except String (RfcValue × Nat) :=
  match field.exid with
  | .int4 =>
    match canonicalInteger? value with
    | some n =>
      if int4Min ≤ n ∧ n ≤ int4Max then .ok (.number (Double.ofInt n), projectedBytes)
      else .error s!"{path} INT4 value is out of range"
    | none => .error s!"{path} contains a non-canonical INT4 value"
  | .char => do
    assertUnicodeScalarText value path
    let capacity ← characterLength field path
    require (value.length ≤ capacity) s!"{path} does not fit CHAR({capacity})"
    .ok (.text value, projectedBytes)
  | .numc => do
    let capacity ← characterLength field path
    require (isDigits value.length value ∧ value.length ≤ capacity)
      s!"{path} contains a non-canonical NUM value"
    let projectedBytes ← consumeClassicXrfcDecodedBytes limits projectedBytes capacity path
    .ok (.text (List.replicate (capacity - value.length) 0x30 ++ value), projectedBytes)
  | .date =>
    if value = [] then .ok (.text [], projectedBytes)
    else do
      require (isSeparated dash dateWidths value) s!"{path} contains a non-canonical xRFC DATE"
      let date := value.filter (· ≠ dash)
      let _ ← assertClassicDate (.text date) path
      .ok (.text date, projectedBytes)
  | .time =>
    if value = [] then .ok (.text [], projectedBytes)
    else do
      require (isSeparated colon timeWidths value) s!"{path} contains a non-canonical xRFC TIME"
      let time := value.filter (· ≠ colon)
      let _ ← assertClassicTime (.text time) path
      .ok (.text time, projectedBytes)
  | .raw => do
    let projectedBytes ← consumeClassicXrfcDecodedBytes limits projectedBytes field.internalLength path
    let decoded ← decodeClassicXrfcBase64 value path limits.maxCellBytes
    require (decoded.length = field.internalLength)
      s!"{path} fixed byte value must contain {field.internalLength} bytes"
    .ok (.bytes decoded, projectedBytes)
  | .packed => do
    let bytes ← encodePackedDecimal host path (.text value) field.internalLength field.decimals
    let s ← decodePackedDecimal path bytes field.decimals
    let out ← projectClassicBcdOutput s bcd
    .ok (out, projectedBytes)
  | .float => do
    require (isFiniteFloatLexical value) s!"{path} contains an invalid FLOAT"
    let decoded := numberOf value
    require decoded.isFinite s!"{path} contains an invalid FLOAT"
    .ok (.number decoded, projectedBytes)
  | .int8 =>
    match (if value.length ≤ 20 then canonicalInteger? value else none) with
    | some n => do
      let out ← decodeClassicInt8 n int8Mode path
      .ok (out, projectedBytes)
    | none => .error s!"{path} contains a non-canonical INT8 value"
  | .string => do
    assertUnicodeScalarText value path
    require (0 ∉ value) s!"{path} contains NUL"
    .ok (.text value, projectedBytes)
  | .xstring => do
    let decoded ← decodeClassicXrfcBase64 value path limits.maxCellBytes
    let projectedBytes ← consumeClassicXrfcDecodedBytes limits projectedBytes decoded.length path
    .ok (.bytes decoded, projectedBytes)
  | _ => .error s!"{path} has an unsupported xRFC field type"

end Reading

section Parsing
variable (host : Host) (numberOf : JsString → Double) (definition : RfcStructureDefinition)
  (limits : NormalizedClassicXrfcLimits) (int8Mode : ClassicInt8Mode) (bcd : ClassicBcdMode)

/-- The loop over the fields of a row. -/
def parseCells : List RfcStructureField → ExactClassicXrfcParser → Nat →
    Except String (RfcRecord × ExactClassicXrfcParser × Nat)
  | [], parser, projectedBytes => .ok ([], parser, projectedBytes)
  | field :: fields, parser, projectedBytes => do
    let parser ← parser.openElement field.fieldName
    let (text, parser) ← parser.cell (path definition field)
    let parser ← parser.closeElement field.fieldName
    let (value, projectedBytes) ← decodeCell host numberOf field limits int8Mode bcd
      (path definition field) text projectedBytes
    let (rest, parser, projectedBytes) ← parseCells fields parser projectedBytes
    .ok ((field.fieldName, value) :: rest, parser, projectedBytes)

def parseRow (itemWrapper : Bool) (parser : ExactClassicXrfcParser) (projectedBytes : Nat) :
    Except String (RfcRecord × ExactClassicXrfcParser × Nat) := do
  let start := parser.byteOffset
  let parser ← if itemWrapper then parser.openElement itemName else .ok parser
  let (result, parser, projectedBytes) ← parseCells host numberOf definition limits int8Mode bcd
    definition.fields parser projectedBytes
  let parser ← if itemWrapper then parser.closeElement itemName else .ok parser
  require (parser.rowByteLength start ≤ limits.maxRowBytes)
    s!"{definition.name.text} XML row exceeds {limits.maxRowBytes} encoded bytes"
  .ok (result, parser, projectedBytes)

/-- The loop over the rows of a table, with the number of rows which may still follow. -/
def parseRows (parameterName : JsString) : Nat → ExactClassicXrfcParser → Nat →
    Except String (List RfcRecord × ExactClassicXrfcParser)
  | 0, parser, _ =>
    if parser.startsWithCloseTag parameterName then .ok ([], parser)
    else .error s!"{parameterName.text} row count exceeds {limits.maxRows}"
  | remaining + 1, parser, projectedBytes =>
    if parser.startsWithCloseTag parameterName then .ok ([], parser)
    else do
      let (row, parser, projectedBytes) ← parseRow host numberOf definition limits int8Mode bcd true parser
        projectedBytes
      let (rows, parser) ← parseRows parameterName remaining parser projectedBytes
      .ok (row :: rows, parser)

def isByteOrderMark (bytes : Bytes) : Bool := bytes.take 3 = [0xef, 0xbb, 0xbf]

/-- The text of a document. -/
def decodeDocument (value : Bytes) (maxParameterBytes : Nat) (name : String) : Except String JsString := do
  require (value.length ≠ 0 ∧ value.length ≤ maxParameterBytes)
    s!"{name} must contain 1..{maxParameterBytes} bytes"
  require (isByteOrderMark value = false) s!"{name} must not contain a UTF-8 BOM"
  match JsString.ofUtf8? value with
  | none => .error "The encoded data was not valid for encoding utf-8"
  | some text => .ok text

/-- `/^<([A-Za-z_][A-Za-z0-9_]*)>/u` -/
def leadingTag? : JsString → Option JsString
  | 0x3c :: rest =>
    let name := rest.takeWhile isNameUnit
    if isSimpleXmlName name ∧ (rest.drop name.length).head? = some 0x3e then some name else none
  | _ => none

def decodeClassicXrfcParameterName (value : Bytes) (options : ClassicXrfcLimits) :
    Except String JsString := do
  let limits ← normalizeClassicXrfcLimits options
  let text ← decodeDocument value limits.maxParameterBytes "xRFC XML parameter"
  match leadingTag? text with
  | some name => .ok name
  | none => .error "xRFC XML parameter lacks a supported top-level tag"

def parseParameter (parameterName : JsString) (kind : ClassicXrfcKind) (text : JsString) :
    Except String RfcValue := do
  let parser ← ExactClassicXrfcParser.openElement { rest := text, limits } parameterName
  match kind with
  | .structured => do
    let (result, parser, _) ← parseRow host numberOf definition limits int8Mode bcd false parser 0
    let parser ← parser.closeElement parameterName
    parser.finish
    .ok (.object result)
  | .table => do
    let (rows, parser) ← parseRows host numberOf definition limits int8Mode bcd parameterName
      limits.maxRows parser 0
    let parser ← parser.closeElement parameterName
    parser.finish
    .ok (.array (rows.map .object))

def decodeClassicXrfcParameter (parameterName : JsString) (kind : ClassicXrfcKind) (value : Bytes)
    (options : ClassicXrfcLimits) : Except String RfcValue := do
  assertClassicXrfcXmlName parameterName "xRFC parameter name"
  let normalized ← normalizeDefinition host definition
  let limits ← normalizeClassicXrfcLimits options
  let text ← decodeDocument value limits.maxParameterBytes s!"{parameterName.text} xRFC XML"
  parseParameter host numberOf normalized limits int8Mode bcd parameterName kind text

end Parsing
end OpenRfc.Xrfc
