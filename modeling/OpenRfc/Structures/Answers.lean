import OpenRfc.Classic.ResultGrouping
import OpenRfc.Classic.StructureDefinition
import OpenRfc.Wire.CheckedReader

/-!
The answers which describe a structure: of RFC_GET_STRUCTURE_DEFINITION, of DDIF_FIELDINFO_GET, and of
RFC_METADATA_GET.
-/

/-!
The answers of RFC_GET_STRUCTURE_DEFINITION. When a table type is asked for, the rows belong to the
structure of its lines.
-/

namespace OpenRfc.Structures
open Fallible Classic Wire
open Cpic
open CheckedByteReader (readBytes)

/-- The types whose letters are known. -/
def knownExids : List RfcExid :=
  [.char, .numc, .date, .time, .raw, .float, .int4, .int2, .int1, .int8, .packed, .decf16, .decf34,
    .string, .xstring, .temporal .utcLong, .temporal .utcSecond, .temporal .utcMinute,
    .temporal .dtDay, .temporal .dtWeek, .temporal .dtMonth, .temporal .tSecond,
    .temporal .tMinute, .temporal .cDay, .flatStructure, .deepStructure, .table]

/-- The type of a letter. -/
def exidOfCode (code : JsString) : RfcExid :=
  (knownExids.find? fun exid => JsString.literal exid.code = code).getD (.other code)

def requiredScalar (functionName : String) (result : ClassicRfcResult) (name : String) :
    Except String Bytes :=
  match result.scalars.find? fun scalar => scalar.name = JsString.literal name with
  | some scalar => .ok scalar.value.bytes
  | none => .error s!"{functionName} response lacks scalar {name}"

/-- `result.tables.find((table) => table.name === name)` -/
def table? (result : ClassicRfcResult) (name : String) : Option ClassicRfcTable :=
  result.tables.find? fun table => table.name = JsString.literal name

section Rows

def rfcFieldsUnicodeRowLength : Nat := 138
def maxRfcStructureFields : Nat := 20000

def readChar (characters : Nat) (field : String) : Read JsString := do
  let bytes ← readBytes (2 * characters) field
  StateT.lift (decodeAbapChar bytes characters)

def readInt32LE (field : String) : Read Int := do
  let bytes ← readBytes 4 field
  pure (Bytes.signedLittleNumber bytes)

/-- The columns of a row, in their order. -/
structure RfcFieldsRow where
  tableName : JsString
  fieldName : JsString
  position : Int
  offset : Int
  internalLength : Int
  decimals : Int
  exid : JsString

def readRfcFieldsRow : Read RfcFieldsRow := do
  let tableName ← readChar 30 "TABNAME"
  let fieldName ← readChar 30 "FIELDNAME"
  let position ← readInt32LE "POSITION"
  let offset ← readInt32LE "OFFSET"
  let internalLength ← readInt32LE "INTLENGTH"
  let decimals ← readInt32LE "DECIMALS"
  let exid ← readChar 1 "EXID"
  CheckedByteReader.finish
  pure { tableName, fieldName, position, offset, internalLength, decimals, exid }

/-- Rows may be longer in later releases. -/
def decodeRfcFieldsRow (value : Bytes) : Except String RfcStructureField := do
  require (rfcFieldsUnicodeRowLength ≤ value.length)
    (s!"Unicode RFC_FIELDS row must contain at least {rfcFieldsUnicodeRowLength} bytes; " ++
      s!"received {value.length}")
  let field ← CheckedByteReader.run "RFC_FIELDS row" (value.take rfcFieldsUnicodeRowLength)
    readRfcFieldsRow
  require (field.tableName ≠ [] ∧ field.fieldName ≠ [])
    "RFC_FIELDS row contains an empty table or field name"
  require (1 ≤ field.position ∧ 0 ≤ field.offset ∧ 0 ≤ field.internalLength ∧ 0 ≤ field.decimals)
    "RFC_FIELDS row contains a negative or invalid numeric property"
  .ok ⟨field.tableName, field.fieldName, field.position.toNat, field.offset.toNat,
    field.internalLength.toNat, field.decimals.toNat, exidOfCode field.exid⟩

/-- The structure to which all rows belong. -/
def rowOwner : Option JsString → List Bytes → Except String (Option JsString)
  | rowName, [] => .ok rowName
  | rowName, row :: rows => do
    let field ← decodeRfcFieldsRow row
    require (∀ name ∈ rowName, field.tableName = name)
      (s!"RFC_FIELDS rows belong to multiple structures: {(rowName.getD []).text} and " ++
        field.tableName.text)
    rowOwner (some field.tableName) rows

/-- The structure of the lines of the table type which was asked for. There is none when a
structure was. -/
def detectRfcStructureDefinitionRowName (queriedName : JsString) (fields : List CpicField) :
    Except String (Option JsString) := do
  let result ← decodeClassicRfcResult fields
  match table? result "FIELDS" with
  | none => .ok none
  | some fieldTable => do
    require (fieldTable.rows.length ≤ maxRfcStructureFields)
      s!"RFC_GET_STRUCTURE_DEFINITION FIELDS must contain at most {maxRfcStructureFields} rows"
    let rowName ← rowOwner none (fieldTable.rows.map (·.bytes))
    .ok (if rowName = some queriedName then none else rowName)

end Rows

section Definitions

/-- The number of rows which the header behind a name announces. -/
def checkRowCount (field : CpicField) (fields : List CpicField) : Except String Unit :=
  if field.tag = CpicTag.tableName then do
    let name ← decodeAbapText field.value
    match fields.head? with
    | some header =>
      if name = JsString.literal "FIELDS" ∧ header.tag = CpicTag.tableHeader then do
        let header ← decodeRfcTableHeader header.value
        require (header.rowCount ≤ maxRfcStructureFields)
          s!"RFC_GET_STRUCTURE_DEFINITION FIELDS must contain at most {maxRfcStructureFields} rows"
      else .ok ()
    | none => .ok ()
  else .ok ()

def checkRowCounts : List CpicField → Except String Unit
  | [] => .ok ()
  | field :: fields => do
    checkRowCount field fields
    checkRowCounts fields

/-- The rows in their order. Their positions are not those of the fields. -/
def decodeRows : Nat → List Bytes → Except String (List RfcStructureField)
  | _, [] => .ok []
  | index, row :: rows => do
    let field ← decodeRfcFieldsRow row
    let fields ← decodeRows (index + 1) rows
    .ok ({ field with position := index + 1 } :: fields)

/-- The loop over the fields. -/
def checkLayout (structureName : JsString) (byteLength : Nat) :
    Nat → List JsString → List RfcStructureField → Except String Unit
  | _, _, [] => .ok ()
  | previousEnd, names, field :: fields => do
    require (field.tableName = structureName)
      (s!"RFC_FIELDS {field.fieldName.text} belongs to {field.tableName.text}; expected " ++
        structureName.text)
    require (field.fieldName ∉ names) s!"RFC_FIELDS contains duplicate field {field.fieldName.text}"
    require (previousEnd ≤ field.offset)
      s!"RFC_FIELDS {field.fieldName.text} overlaps its preceding field"
    require (field.byteEnd ≤ Double.maxSafeInteger ∧ field.byteEnd ≤ byteLength)
      (s!"RFC_FIELDS {field.fieldName.text} ends at {field.byteEnd} beyond structure length " ++
        s!"{byteLength}")
    checkLayout structureName byteLength field.byteEnd (field.fieldName :: names) fields

def decodeRfcStructureDefinitionResult (structureName : JsString) (fields : List CpicField) :
    Except String RfcStructureDefinition := do
  checkRowCounts fields
  let result ← decodeClassicRfcResult fields
  let lengthValue ← requiredScalar "RFC_GET_STRUCTURE_DEFINITION" result "TABLENGTH"
  require (lengthValue.length = 4) "RFC_GET_STRUCTURE_DEFINITION TABLENGTH must be INT4"
  let byteLength := Bytes.signedLittleNumber lengthValue
  require (0 ≤ byteLength) "RFC_GET_STRUCTURE_DEFINITION returned negative TABLENGTH"
  match table? result "FIELDS" with
  | none => .error "RFC_GET_STRUCTURE_DEFINITION response lacks FIELDS table"
  | some fieldTable => do
    require (rfcFieldsUnicodeRowLength ≤ fieldTable.rowByteLength)
      (s!"RFC_GET_STRUCTURE_DEFINITION FIELDS row width is {fieldTable.rowByteLength}; " ++
        s!"expected at least {rfcFieldsUnicodeRowLength}")
    let decodedFields ← decodeRows 0 (fieldTable.rows.map (·.bytes))
    checkLayout structureName byteLength.toNat 0 [] decodedFields
    .ok ⟨structureName, byteLength.toNat, decodedFields⟩

theorem name_of_decodeRfcStructureDefinitionResult {structureName : JsString}
    {fields : List CpicField} {definition : RfcStructureDefinition}
    (h : decodeRfcStructureDefinitionResult structureName fields = .ok definition) :
    definition.name = structureName := by
  simp only [decodeRfcStructureDefinitionResult, bind_eq_ok] at h
  obtain ⟨-, -, result, -, lengthValue, -, -, -, -, -, h⟩ := h
  cases htable : table? result "FIELDS" with
  | none =>
      rw [htable] at h
      cases h
  | some fieldTable =>
      simp only [htable, bind_eq_ok, Except.ok.injEq] at h
      obtain ⟨-, -, decodedFields, -, -, -, rfl⟩ := h
      rfl

end Definitions
end OpenRfc.Structures

/-!
The answers of DDIF_FIELDINFO_GET. Every answer names the structure which was asked for.
-/

namespace OpenRfc.Structures
open Fallible Classic Values
open Cpic

def dfiesMinimumUnicodeRowLength : Nat := 1074
def x030lMinimumUnicodeLength : Nat := 249
def maxDdicStructureFields : Nat := 9999

/-- `/^\d+$/u`, and the number of the digits -/
def digitsNumber? (value : JsString) : Option Nat :=
  match Numeral.readDigits value with
  | (digits, []) => if digits = [] then none else some digits.number
  | _ => none

def ddIfMetadataName (value : JsString) (path : String) : Except String JsString := do
  require (1 ≤ value.length ∧ value.length ≤ 30 ∧ value.hasNoControls)
    s!"{path} must contain 1..30 characters without controls"
  .ok value

section Rows

def fieldText (row : Bytes) (offset byteLength characterLength : Nat) : Except String JsString :=
  decodeAbapChar (Bytes.slice row offset byteLength) characterLength

def numc (row : Bytes) (offset byteLength : Nat) (path : String) : Except String Nat := do
  let value ← fieldText row offset byteLength (byteLength / 2)
  match digitsNumber? value with
  | none => .error s!"{path} must contain NUMC digits"
  | some parsed => do
    require (parsed ≤ Double.maxSafeInteger) s!"{path} exceeds the safe integer range"
    .ok parsed

structure DecodedDfiesField extends RfcStructureField where
  componentType : JsString

/-- The columns in front of the ones which later releases append. -/
def decodeDdIfDfiesRow (value : Bytes) : Except String DecodedDfiesField := do
  require (dfiesMinimumUnicodeRowLength ≤ value.length ∧ value.length % 2 = 0)
    (s!"Unicode DFIES row must contain at least {dfiesMinimumUnicodeRowLength} even bytes; " ++
      s!"received {value.length}")
  let row := value.take dfiesMinimumUnicodeRowLength
  let tableName ← fieldText row 0 60 30
  let fieldName ← fieldText row 60 60 30
  let position ← numc row 122 8 "DFIES.POSITION"
  let offset ← numc row 130 12 "DFIES.OFFSET"
  let internalLength ← numc row 334 12 "DFIES.INTLEN"
  let decimals ← numc row 358 12 "DFIES.DECIMALS"
  let exid ← fieldText row 378 2 1
  let componentType ← fieldText row 1072 2 1
  require (tableName ≠ [] ∧ fieldName ≠ [] ∧ exid.length = 1)
    "DFIES row contains an empty table, field, or INTTYPE"
  require (1 ≤ position) "DFIES row contains an invalid position"
  .ok { tableName, fieldName, position, offset, internalLength, decimals,
        exid := exidOfCode exid, componentType }

def decodeDdIfDfiesRows : List Bytes → Except String (List DecodedDfiesField)
  | [] => .ok []
  | row :: rows => do
    let field ← decodeDdIfDfiesRow row
    let fields ← decodeDdIfDfiesRows rows
    .ok (field :: fields)

/-- The length of a structure and the number of its fields. -/
def x030lGeometry (value : Bytes) (structureName : JsString) : Except String (Nat × Nat) := do
  require (x030lMinimumUnicodeLength ≤ value.length)
    s!"DDIF_FIELDINFO_GET X030L_WA must contain at least {x030lMinimumUnicodeLength} bytes"
  let returnedName ← fieldText value 0 60 30
  require (returnedName = structureName)
    (s!"DDIF_FIELDINFO_GET X030L_WA belongs to {returnedName.text}; expected " ++
      structureName.text)
  let fieldCount := Bytes.number (Bytes.slice value 162 2)
  let byteLength := Bytes.number (Bytes.slice value 164 4)
  let tableType ← fieldText value 172 2 1
  let unicodeCharacterBytes := value.getD 248 0
  require (unicodeCharacterBytes = 2)
    s!"DDIF_FIELDINFO_GET selected unsupported Unicode width {unicodeCharacterBytes}"
  require (fieldCount ≤ maxDdicStructureFields)
    s!"DDIF_FIELDINFO_GET field count exceeds {maxDdicStructureFields}"
  require (tableType ≠ JsString.literal "L")
    "DDIF_FIELDINFO_GET returned a table/vector type; a flat structure was required"
  .ok (byteLength, fieldCount)

end Rows

section Definitions

/-- What is checked of a field in front of its codec. -/
def checkDfiesField (name : JsString) (byteLength index previousEnd : Nat) (names : List JsString)
    (field : DecodedDfiesField) : Except String Unit := do
  require (field.tableName = name)
    s!"DFIES {field.fieldName.text} belongs to {field.tableName.text}; expected {name.text}"
  require (field.position = index + 1)
    s!"DFIES {field.fieldName.text} has position {field.position}; expected {index + 1}"
  require (field.componentType = [] ∨ field.componentType = JsString.literal "E")
    (s!"DFIES {name.text}.{field.fieldName.text} has unsupported component type " ++
      field.componentType.text)
  require (field.fieldName ∉ names) s!"DFIES contains duplicate field {field.fieldName.text}"
  require (previousEnd ≤ field.offset)
    s!"DFIES {field.fieldName.text} overlaps its preceding field"
  require (field.byteEnd ≤ Double.maxSafeInteger ∧ field.byteEnd ≤ byteLength)
    (s!"DFIES {field.fieldName.text} ends at {field.byteEnd} beyond structure length " ++
      s!"{byteLength}")

/-- The loop over the fields. -/
def checkDfiesFields (name : JsString) (byteLength : Nat) :
    Nat → Nat → List JsString → List DecodedDfiesField → Except String Unit
  | _, _, _, [] => .ok ()
  | index, previousEnd, names, field :: fields => do
    checkDfiesField name byteLength index previousEnd names field
    checkDfiesFields name byteLength (index + 1) field.byteEnd (field.fieldName :: names) fields

def decodeDdIfFieldInfoGetResult (host : Host) (structureName : JsString)
    (fields : List CpicField) : Except String RfcStructureDefinition := do
  let name ← ddIfMetadataName structureName "structureName"
  let result ← decodeClassicRfcResult fields
  let objectKind ← requiredScalar "DDIF_FIELDINFO_GET" result "DDOBJTYPE"
  let objectKind ← decodeAbapText objectKind
  require (objectKind ≠ []) "DDIF_FIELDINFO_GET returned an initial DDOBJTYPE"
  require (objectKind ≠ JsString.literal "DTEL" ∧ objectKind ≠ JsString.literal "TTYP")
    s!"DDIF_FIELDINFO_GET returned unsupported DDIC object kind {objectKind.text}"
  let x030l ← requiredScalar "DDIF_FIELDINFO_GET" result "X030L_WA"
  let (byteLength, fieldCount) ← x030lGeometry x030l name
  match table? result "DFIES_TAB" with
  | none => .error "DDIF_FIELDINFO_GET response lacks DFIES_TAB"
  | some table => do
    require (table.rows.length ≤ maxDdicStructureFields)
      s!"DDIF_FIELDINFO_GET field count exceeds {maxDdicStructureFields}"
    require (fieldCount = table.rows.length)
      (s!"DDIF_FIELDINFO_GET X030L_WA advertises {fieldCount} fields; DFIES_TAB contains " ++
        s!"{table.rows.length}")
    let decoded ← decodeDdIfDfiesRows (table.rows.map (·.bytes))
    checkDfiesFields name byteLength 0 0 [] decoded
    validateClassicStructureCodec ⟨name, byteLength, decoded.map (·.toRfcStructureField)⟩ host
      (some name)

theorem name_of_validateClassicStructureCodec {definition normalized : RfcStructureDefinition}
    {host : Host} {name : JsString}
    (h : validateClassicStructureCodec definition host (some name) = .ok normalized) :
    normalized.name = name := by
  simp only [validateClassicStructureCodec, snapshotClassicStructureDefinition, bind_eq_ok,
    require_eq_ok, exists_const, Except.ok.injEq] at h
  obtain ⟨_, ⟨⟨-, hname⟩, -, -, -, _, -, rfl⟩, _, -, rfl⟩ := h
  exact hname

theorem name_of_decodeDdIfFieldInfoGetResult {host : Host} {structureName : JsString}
    {fields : List CpicField} {definition : RfcStructureDefinition}
    (h : decodeDdIfFieldInfoGetResult host structureName fields = .ok definition) :
    definition.name = structureName := by
  simp only [decodeDdIfFieldInfoGetResult, ddIfMetadataName, bind_eq_ok, require_eq_ok,
    exists_const, Except.ok.injEq] at h
  obtain ⟨name, ⟨-, rfl⟩, result, -, -, -, -, -, -, -, -, -, geometry, -, h⟩ := h
  cases htable : table? result "DFIES_TAB" with
  | none =>
      rw [htable] at h
      cases h
  | some table =>
      simp only [htable, bind_eq_ok] at h
      obtain ⟨-, -, -, -, decoded, -, -, -, h⟩ := h
      exact name_of_validateClassicStructureCodec h

end Definitions
end OpenRfc.Structures

/-!
The answers of RFC_METADATA_GET, which is called as any other function is. A structure is made of
the rows of its type.
-/

namespace OpenRfc.Structures
open Fallible Classic Values

def maxMetadataRows : Nat := 100000
def maxStructureFields : Nat := 9999

/-- `/[^\x20-\x7e]/u` finds nothing. -/
def isPrintable (value : JsString) : Prop := ∀ unit ∈ value, 0x20 ≤ unit ∧ unit ≤ 0x7e

instance (value : JsString) : Decidable (isPrintable value) :=
  List.decidableBAll (fun unit : UInt16 => 0x20 ≤ unit ∧ unit ≤ 0x7e) value

def metadataName (value : JsString) (path : String) : Except String JsString := do
  require (1 ≤ value.length ∧ value.length ≤ 30 ∧ isPrintable value)
    s!"{path} must contain 1..30 ASCII bytes"
  .ok value

section Records
variable (row : RfcRecord) (name path : String)

/-- The properties of a record which have names. Bytes have none of them. -/
def plainRecord (value : RfcValue) (path : String) : Except String RfcRecord :=
  match value with
  | .object properties => .ok properties
  | .bytes _ => .ok []
  | _ => .error s!"{path} must be an object"

def dataProperty : Except String RfcValue :=
  match row.lookup (JsString.literal name) with
  | some value => .ok value
  | none => .error s!"{path}.{name} must be an own data property"

def plainRecords (name : String) : Nat → List RfcValue → Except String (List RfcRecord)
  | _, [] => .ok []
  | index, value :: values => do
    let record ← plainRecord value s!"RFC_METADATA_GET output {name}[{index}]"
    let records ← plainRecords name (index + 1) values
    .ok (record :: records)

def metadataRows (output : RfcRecord) (name : String) : Except String (List RfcRecord) := do
  let source ← dataProperty output name "RFC_METADATA_GET output"
  match source with
  | .array source => do
    require (source.length ≤ maxMetadataRows)
      s!"RFC_METADATA_GET output {name} must contain at most {maxMetadataRows} rows"
    plainRecords name 0 source
  | _ => .error s!"RFC_METADATA_GET output {name} must contain at most {maxMetadataRows} rows"

def metadataText (maximum : Nat) : Except String JsString := do
  let value ← dataProperty row name path
  match value with
  | .text value => do
    require (value.length ≤ maximum ∧ value.hasNoControls) s!"{path}.{name} contains invalid text"
    .ok value
  | _ => .error s!"{path}.{name} contains invalid text"

/-- The non-negative safe integer which a value is, or which its digits are. -/
def nonNegativeInteger? : RfcValue → Option Nat
  | .number d =>
    match d.safeInteger? with
    | some n => if 0 ≤ n then some n.toNat else none
    | none => none
  | .text value =>
    match digitsNumber? value with
    | some parsed => if parsed ≤ Double.maxSafeInteger then some parsed else none
    | none => none
  | _ => none

def metadataInteger : Except String Nat := do
  let value ← dataProperty row name path
  match nonNegativeInteger? value with
  | some n => .ok n
  | none => .error s!"{path}.{name} must be a non-negative safe integer"

def fixedDigits (length : Nat) : Except String JsString := do
  let value ← metadataText row name path length
  require (isDigits length value) s!"{path}.{name} must contain exactly {length} digits"
  .ok value

end Records

section Errors

/-- `/^[A-Z0-9_]{1,30}$/u` -/
def isExceptionName (value : JsString) : Bool :=
  1 ≤ value.length && value.length ≤ 30 &&
    value.all fun unit => (0x41 ≤ unit && unit ≤ 0x5a) || (0x30 ≤ unit && unit ≤ 0x39) || unit == 0x5f

/-- The loop over the rows of errors. -/
def findError (tableName keyName : String) (objectName : JsString) :
    Nat → List RfcRecord → Except String (Option JsString)
  | _, [] => .ok none
  | index, row :: rows => do
    let path := s!"RFC_METADATA_GET output {tableName}[{index}]"
    let key ← metadataText row keyName path 30
    if key = objectName then do
      let exceptionName ← metadataText row "EXCEPTION" path 30
      require (isExceptionName exceptionName) s!"{path}.EXCEPTION is invalid"
      .ok (some exceptionName)
    else findError tableName keyName objectName (index + 1) rows

def matchingError (output : RfcRecord) (tableName keyName : String) (objectName : JsString) :
    Except String (Option JsString) := do
  let errors ← metadataRows output tableName
  findError tableName keyName objectName 0 errors

end Errors

section Structures

/-- The rows of a type. -/
def matchingTypeRows (name : JsString) : Nat → List RfcRecord → Except String (List RfcRecord)
  | _, [] => .ok []
  | index, row :: rows => do
    let typeName ← metadataText row "TYPENAME" s!"RFC_METADATA_GET output DATATYPESCONT[{index}]" 30
    let found ← matchingTypeRows name (index + 1) rows
    .ok (if typeName = name then row :: found else found)

/-- What the rows in front have in common, and where the last field ends. -/
structure TypeRows where
  byteLength : Option Nat := none
  generationTimestamp : Option JsString := none
  fieldNames : List JsString := []
  previousEnd : Nat := 0

def typeRowPath (name : JsString) (index : Nat) : String :=
  s!"RFC_METADATA_GET structure {name.text}[{index}]"

/-- A field, and what the rows up to it have in common. -/
def typeRowField (name : JsString) (index : Nat) (state : TypeRows) (row : RfcRecord) :
    Except String (RfcStructureField × TypeRows) := do
  let path := typeRowPath name index
  let byteLength ← metadataInteger row "TABLENGTH_UC" path
  require (∀ length ∈ state.byteLength, byteLength = length)
    s!"RFC_METADATA_GET structure {name.text} has inconsistent lengths"
  let timestamp ← fixedDigits row "TIMESTAMP" path 14
  require (∀ first ∈ state.generationTimestamp, timestamp = first)
    s!"RFC_METADATA_GET structure {name.text} has inconsistent timestamps"
  let fieldName ← metadataText row "FIELDNAME" path 30
  let fieldName ← metadataName fieldName s!"{path}.FIELDNAME"
  require (fieldName ∉ state.fieldNames)
    s!"RFC_METADATA_GET structure {name.text} has duplicate field {fieldName.text}"
  let componentType ← metadataText row "COMPTYPE" path 1
  let exid ← metadataText row "INTTYPE" path 1
  let exid := exidOfCode exid
  require (¬(componentType ≠ [] ∧ componentType ≠ JsString.literal "E" ∨ exid = .flatStructure ∨
      exid = .table ∨ exid = .deepStructure))
    (s!"RFC_METADATA_GET structure {name.text}.{fieldName.text} requires a negotiated " ++
      "recursive serializer")
  let offset ← metadataInteger row "OFFSET_UC" path
  let internalLength ← metadataInteger row "INTLEN_UC" path
  require (offset + internalLength ≤ Double.maxSafeInteger ∧ state.previousEnd ≤ offset ∧
      offset + internalLength ≤ byteLength)
    s!"RFC_METADATA_GET structure {name.text}.{fieldName.text} has invalid geometry"
  let decimals ← metadataInteger row "DECIMALS" path
  .ok ({ tableName := name, fieldName, position := index + 1, offset, internalLength, decimals,
         exid },
    { byteLength, generationTimestamp := timestamp, fieldNames := fieldName :: state.fieldNames
      previousEnd := offset + internalLength })

/-- The loop over the rows of a type. -/
def typeRowFields (name : JsString) :
    Nat → TypeRows → List RfcRecord → Except String (List RfcStructureField × TypeRows)
  | _, state, [] => .ok ([], state)
  | index, state, row :: rows => do
    let (field, state) ← typeRowField name index state row
    let (fields, state) ← typeRowFields name (index + 1) state rows
    .ok (field :: fields, state)

structure RfcMetadataGetStructureResult where
  value : RfcStructureDefinition
  generationToken : JsString

def normalizeRfcMetadataGetStructureResult (host : Host) (structureName : JsString)
    (value : RfcValue) : Except String RfcMetadataGetStructureResult := do
  let name ← metadataName structureName "structureName"
  let output ← plainRecord value "RFC_METADATA_GET output"
  let failure ← matchingError output "DD_ERRORS" "TABNAME" name
  require (failure = none)
    s!"RFC_METADATA_GET could not resolve structure {name.text} ({(failure.getD []).text})"
  let typeRows ← metadataRows output "DATATYPESCONT"
  let found ← matchingTypeRows name 0 typeRows
  require (found ≠ []) s!"RFC_METADATA_GET returned no type rows for structure {name.text}"
  require (found.length ≤ maxStructureFields)
    s!"RFC_METADATA_GET structure {name.text} exceeds {maxStructureFields} fields"
  let (fields, state) ← typeRowFields name 0 {} found
  let descriptor ← validateClassicStructureCodec ⟨name, state.byteLength.getD 0, fields⟩ host
    (some name)
  .ok ⟨descriptor, JsString.literal "structure:" ++ state.generationTimestamp.getD []⟩

theorem name_of_normalizeRfcMetadataGetStructureResult {host : Host} {structureName : JsString}
    {value : RfcValue} {result : RfcMetadataGetStructureResult}
    (h : normalizeRfcMetadataGetStructureResult host structureName value = .ok result) :
    result.value.name = structureName := by
  simp only [normalizeRfcMetadataGetStructureResult, metadataName, bind_eq_ok, require_eq_ok,
    exists_const, Except.ok.injEq] at h
  obtain ⟨name, ⟨-, rfl⟩, output, -, failure, -, -, typeRows, -, found, -, -, -, rest, -,
    descriptor, hvalid, rfl⟩ := h
  exact name_of_validateClassicStructureCodec hvalid

end Structures
end OpenRfc.Structures
