import OpenRfc.Classic.AbapChar
import OpenRfc.Classic.TableRow

/-!
The fields of a response are grouped into scalars, tables and xRFC documents. A first pass adds up
the bytes which the tables will take. A decoder of fields which it owns may hand out buffers which
share their memory.
-/

namespace OpenRfc.Classic
open Fallible Cpic

def defaultMaxClassicRfcTableDecodedBytes : Nat := defaultMaxCpicFieldChainLength
def defaultMaxClassicRfcResultTableDecodedBytes : Nat := defaultMaxCpicFieldChainLength

/-- The bytes of a result, and whether they are those of a field. -/
structure WireBuffer where
  bytes : Bytes
  borrowed : Bool
deriving DecidableEq, Repr

inductive RowEncoding
  | flat | structured | mixed | empty
deriving DecidableEq, Repr

inductive RowCompression
  | none | simple | mixed | empty
deriving DecidableEq, Repr

structure ClassicRfcScalar where
  name : JsString
  value : WireBuffer
deriving DecidableEq, Repr

structure ClassicRfcTable where
  name : JsString
  declaredRowByteLength : Nat
  rowByteLength : Nat
  rowEncoding : RowEncoding
  rowCompression : RowCompression
  rows : List WireBuffer
deriving DecidableEq, Repr

structure ClassicRfcXrfcParameter where
  value : WireBuffer
  chunkCount : Nat
deriving DecidableEq, Repr

structure ClassicRfcResult where
  requestedOutputs : List JsString
  scalars : List ClassicRfcScalar
  tables : List ClassicRfcTable
  xrfcParameters : List ClassicRfcXrfcParameter
deriving DecidableEq, Repr

/-- `/[\u0000-\u001f\u007f]/` finds nothing in a name. -/
def decodeParameterName (value : Bytes) (field : String) : Except String JsString := do
  let name ← decodeAbapText value
  require (name ≠ [] ∧ name.hasNoControls)
    s!"{field} is not a valid non-empty RFC parameter name"
  .ok name

def nonApplicationTags : List Int :=
  [CpicTag.responseContext, CpicTag.session, CpicTag.unresolved0420, CpicTag.callContext,
    CpicTag.program, 0x0667, CpicTag.end]

def isRowTag (tag : Int) : Bool := tag = CpicTag.tableContent ∨ tag = CpicTag.tableCompr

section Preflight

/-- The bytes of the fields, field by field. -/
def addFieldBytes : Nat → List CpicField → Except String Unit
  | _, [] => .ok ()
  | valueBytes, field :: fields => do
    let valueBytes := valueBytes + field.value.length
    require (valueBytes ≤ defaultMaxCpicFieldChainLength)
      s!"classic RFC result field bytes {valueBytes} exceed {defaultMaxCpicFieldChainLength}"
    addFieldBytes valueBytes fields

def preflightClassicRfcResultBytes (fields : List CpicField) : Except String Unit := do
  require (fields.length ≤ defaultMaxCpicFieldCount)
    s!"classic RFC result field count exceeds {defaultMaxCpicFieldCount}"
  addFieldBytes 0 fields

def compressionLabel (tag : Int) : String :=
  if tag = CpicTag.tableCompr then "simple-compressed" else "uncompressed"

def encodedMark (tag : Int) : String := if tag = CpicTag.tableCompr then " encoded" else ""

/-- The bytes of a row which is decoded. -/
def rowDecodedBytes (header : RfcTableHeader) (row : CpicField) : Nat :=
  if row.tag = CpicTag.tableCompr then header.declaredRowByteLength else row.value.length

def preflightRow (name : JsString) (header : RfcTableHeader) (rowCount : Nat) (row : CpicField) :
    Except String Unit := do
  require (row.value.length ≠ 0)
    s!"classic RFC table {name.text} {compressionLabel row.tag} row {rowCount} is empty"
  require (row.value.length ≤ header.declaredRowByteLength)
    (s!"classic RFC table {name.text} {compressionLabel row.tag} row {rowCount} has " ++
      s!"{row.value.length}{encodedMark row.tag} bytes; " ++
      s!"declared row width is {header.declaredRowByteLength}")
  require (¬(row.tag = CpicTag.tableCompr ∧ row.value.length < header.declaredRowByteLength ∧
      defaultMaxCpicFieldLength < header.declaredRowByteLength))
    (s!"classic RFC table {name.text} simple-compressed row {rowCount} expands to " ++
      s!"{header.declaredRowByteLength} bytes; maximum is {defaultMaxCpicFieldLength}")

/-- The bytes of the rows of a table, and how many rows were found. -/
def preflightRows (name : JsString) (header : RfcTableHeader) :
    Nat → Nat → List CpicField → Except String (Nat × Nat)
  | tableDecodedBytes, rowCount, [] => .ok (tableDecodedBytes, rowCount)
  | tableDecodedBytes, rowCount, row :: fields =>
    if rowCount < header.rowCount ∧ isRowTag row.tag = true then do
      preflightRow name header rowCount row
      preflightRows name header (tableDecodedBytes + rowDecodedBytes header row) (rowCount + 1)
        fields
    else .ok (tableDecodedBytes, rowCount)

/-- The bytes of a table, and how many fields stand behind its header. -/
def preflightTable (resultDecodedBytes : Nat) (nameField headerField : CpicField)
    (fields : List CpicField) : Except String (Nat × Nat) := do
  let name ← decodeParameterName nameField.value "table parameter name"
  let header ← decodeRfcTableHeader headerField.value
  let (tableDecodedBytes, rowCount) ← preflightRows name header 0 0 fields
  require (rowCount = header.rowCount)
    s!"classic RFC table {name.text} declares {header.rowCount} rows but found {rowCount}"
  require (tableDecodedBytes ≤ defaultMaxClassicRfcTableDecodedBytes)
    (s!"classic RFC table {name.text} decoded bytes {tableDecodedBytes} exceed table limit " ++
      s!"{defaultMaxClassicRfcTableDecodedBytes}")
  require (resultDecodedBytes + tableDecodedBytes ≤ defaultMaxClassicRfcResultTableDecodedBytes)
    (s!"classic RFC decoded table bytes {resultDecodedBytes + tableDecodedBytes} exceed result " ++
      s!"limit {defaultMaxClassicRfcResultTableDecodedBytes}")
  .ok (resultDecodedBytes + tableDecodedBytes, rowCount)

def preflightTables : Nat → List CpicField → Except String Unit
  | _, [] => .ok ()
  | resultDecodedBytes, field :: fields =>
    match fields with
    | [] => .ok ()
    | headerField :: rows =>
      if field.tag = CpicTag.tableName ∧ headerField.tag = CpicTag.tableHeader then do
        let (resultDecodedBytes, rowCount) ←
          preflightTable resultDecodedBytes field headerField rows
        preflightTables resultDecodedBytes (rows.drop rowCount)
      else preflightTables resultDecodedBytes (headerField :: rows)
termination_by _ fields => fields.length
decreasing_by all_goals simp +arith

def preflightClassicRfcTableBytes (fields : List CpicField) : Except String Unit :=
  preflightTables 0 fields

end Preflight

section Decode
variable (borrowOwnedValues : Bool)

def retainedWireBuffer (value : Bytes) : WireBuffer := ⟨value, borrowOwnedValues⟩

/-- A row which is expanded is a buffer of its own. -/
def decodeTableComprRow (value : Bytes) (header : RfcTableHeader) (name : JsString)
    (rowIndex : Nat) : Except String WireBuffer := do
  let row ← decodeSimpleCompressedTableRow value header.declaredRowByteLength name rowIndex
  .ok ⟨row, borrowOwnedValues && value.length == header.declaredRowByteLength⟩

def decodeTableContentRow (value : Bytes) (header : RfcTableHeader) (name : JsString)
    (rowIndex : Nat) : Except String WireBuffer := do
  require (value.length ≠ 0)
    s!"classic RFC table {name.text} uncompressed row {rowIndex} is empty"
  require (value.length ≤ header.declaredRowByteLength)
    (s!"classic RFC table {name.text} uncompressed row {rowIndex} has {value.length} bytes; " ++
      s!"declared row width is {header.declaredRowByteLength}")
  .ok (retainedWireBuffer borrowOwnedValues value)

structure TableRows where
  rows : List WireBuffer
  sawUncompressed : Bool
  sawSimpleCompressed : Bool
  rowByteLength : Nat
deriving DecidableEq, Repr

def TableRows.push (s : TableRows) (row : WireBuffer) (compressed : Bool) : TableRows where
  rows := s.rows ++ [row]
  sawUncompressed := s.sawUncompressed || !compressed
  sawSimpleCompressed := s.sawSimpleCompressed || compressed
  rowByteLength := if s.rows.length = 0 then row.bytes.length else s.rowByteLength

def decodeRow (header : RfcTableHeader) (name : JsString) (rowIndex : Nat) (field : CpicField) :
    Except String WireBuffer :=
  if field.tag = CpicTag.tableCompr then
    decodeTableComprRow borrowOwnedValues field.value header name rowIndex
  else decodeTableContentRow borrowOwnedValues field.value header name rowIndex

def decodeRows (header : RfcTableHeader) (name : JsString) :
    TableRows → List CpicField → Except String TableRows
  | s, [] => .ok s
  | s, field :: fields =>
    if s.rows.length < header.rowCount ∧ isRowTag field.tag = true then do
      let row ← decodeRow borrowOwnedValues header name s.rows.length field
      decodeRows header name (s.push row (field.tag = CpicTag.tableCompr)) fields
    else .ok s

def TableRows.encoding (s : TableRows) : RowEncoding :=
  match s.sawUncompressed, s.sawSimpleCompressed with
  | true, true => .mixed
  | true, false => .flat
  | false, true => .structured
  | false, false => .empty

def TableRows.compression (s : TableRows) : RowCompression :=
  match s.sawUncompressed, s.sawSimpleCompressed with
  | true, true => .mixed
  | true, false => .none
  | false, true => .simple
  | false, false => .empty

/-- What has been read, with the names of the scalars and tables. -/
structure Grouping where
  result : ClassicRfcResult
  names : List JsString
deriving DecidableEq, Repr

def Grouping.empty : Grouping := ⟨⟨[], [], [], []⟩, []⟩

def Grouping.addRequestedOutput (s : Grouping) (name : JsString) : Grouping :=
  { s with result.requestedOutputs := s.result.requestedOutputs ++ [name] }

def Grouping.addScalar (s : Grouping) (scalar : ClassicRfcScalar) : Grouping :=
  { s with
    result.scalars := s.result.scalars ++ [scalar]
    names := s.names ++ [scalar.name] }

def Grouping.addTable (s : Grouping) (table : ClassicRfcTable) : Grouping :=
  { s with
    result.tables := s.result.tables ++ [table]
    names := s.names ++ [table.name] }

def Grouping.addXrfcParameter (s : Grouping) (parameter : ClassicRfcXrfcParameter) : Grouping :=
  { s with result.xrfcParameters := s.result.xrfcParameters ++ [parameter] }

/-- The chunks of a document, and their bytes. -/
def collectChunks : List Bytes → Nat → List CpicField → Except String (List Bytes × Nat)
  | chunks, byteLength, [] => .ok (chunks, byteLength)
  | chunks, byteLength, field :: fields =>
    if field.tag = CpicTag.xRfcData then do
      require (field.value.length ≠ 0) "classic RFC xRFC XML data chunk must not be empty"
      let byteLength := byteLength + field.value.length
      require (byteLength ≤ defaultMaxCpicFieldChainLength)
        s!"classic RFC xRFC XML parameter exceeds {defaultMaxCpicFieldChainLength} bytes"
      collectChunks (chunks ++ [field.value]) byteLength fields
    else .ok (chunks, byteLength)

/-- Each decoder of a group returns how many of the fields behind the first one it has read. -/
def decodeXrfcParameter (s : Grouping) (field : CpicField) (fields : List CpicField) :
    Except String (Grouping × Nat) := do
  require (field.value.length = 0) "classic RFC xRFC XML opening boundary must be empty"
  let (chunks, _) ← collectChunks [] 0 fields
  require (chunks.length ≠ 0) "classic RFC xRFC XML boundary contains no data chunk"
  match fields[chunks.length]? with
  | none => .error "classic RFC xRFC XML parameter lacks its closing boundary"
  | some closing => do
    require (closing.tag = CpicTag.xRfcParameter)
      "classic RFC xRFC XML parameter lacks its closing boundary"
    require (closing.value.length = 0) "classic RFC xRFC XML closing boundary must be empty"
    .ok (s.addXrfcParameter
      ⟨⟨chunks.flatten, borrowOwnedValues && chunks.length == 1⟩, chunks.length⟩,
      chunks.length + 1)

def decodeScalar (s : Grouping) (field : CpicField) (fields : List CpicField) :
    Except String (Grouping × Nat) := do
  let name ← decodeParameterName field.value "scalar parameter name"
  match fields with
  | [] => .error s!"classic RFC scalar {name.text} is not followed by its value"
  | valueField :: _ => do
    require (valueField.tag = CpicTag.parameterValue)
      s!"classic RFC scalar {name.text} is not followed by its value"
    require (name ∉ s.names) s!"classic RFC response contains duplicate parameter {name.text}"
    .ok (s.addScalar ⟨name, retainedWireBuffer borrowOwnedValues valueField.value⟩, 1)

def decodeTable (s : Grouping) (field : CpicField) (fields : List CpicField) :
    Except String (Grouping × Nat) := do
  let name ← decodeParameterName field.value "table parameter name"
  match fields with
  | [] => .error s!"classic RFC table {name.text} is not followed by its header"
  | headerField :: rowFields => do
    require (headerField.tag = CpicTag.tableHeader)
      s!"classic RFC table {name.text} is not followed by its header"
    require (name ∉ s.names) s!"classic RFC response contains duplicate parameter {name.text}"
    let header ← decodeRfcTableHeader headerField.value
    let read ← decodeRows borrowOwnedValues header name
      ⟨[], false, false, header.declaredRowByteLength⟩ rowFields
    require (read.rows.length = header.rowCount)
      s!"classic RFC table {name.text} declares {header.rowCount} rows but found {read.rows.length}"
    .ok (s.addTable ⟨name, header.declaredRowByteLength, read.rowByteLength, read.encoding,
      read.compression, read.rows⟩, 1 + read.rows.length)

def decodeGroup (s : Grouping) (field : CpicField) (fields : List CpicField) :
    Except String (Grouping × Nat) :=
  if field.tag ∈ nonApplicationTags then .ok (s, 0)
  else if field.tag = CpicTag.requestedOutput then do
    let name ← decodeParameterName field.value "requested output name"
    .ok (s.addRequestedOutput name, 0)
  else if field.tag = CpicTag.xRfcData then
    .error "classic RFC response contains xRFC XML data without an opening boundary"
  else if field.tag = CpicTag.xRfcParameter then decodeXrfcParameter borrowOwnedValues s field fields
  else if field.tag = CpicTag.parameterValue then
    .error "classic RFC response contains a value without a parameter name"
  else if field.tag = CpicTag.tableHeader ∨ field.tag = CpicTag.tableContent ∨
      field.tag = CpicTag.tableCompr then
    .error "classic RFC response contains a table record without a table name"
  else if field.tag = CpicTag.parameterName then decodeScalar borrowOwnedValues s field fields
  else if field.tag = CpicTag.tableName then decodeTable borrowOwnedValues s field fields
  else .error s!"classic RFC response contains unsupported tag {tagText field.tag}"

def decodeGroups (s : Grouping) : List CpicField → Except String Grouping
  | [] => .ok s
  | field :: fields => do
    let (s, count) ← decodeGroup borrowOwnedValues s field fields
    decodeGroups s (fields.drop count)
termination_by fields => fields.length
decreasing_by simp +arith

def decodeClassicRfcResultWithOwnership (fields : List CpicField) :
    Except String ClassicRfcResult := do
  preflightClassicRfcResultBytes fields
  preflightClassicRfcTableBytes fields
  let s ← decodeGroups borrowOwnedValues .empty fields
  .ok s.result

end Decode

def decodeClassicRfcResult (fields : List CpicField) : Except String ClassicRfcResult :=
  decodeClassicRfcResultWithOwnership false fields

/-- The buffers of the result may be those of the fields. -/
def decodeOwnedClassicRfcResult (fields : List CpicField) : Except String ClassicRfcResult :=
  decodeClassicRfcResultWithOwnership true fields

end OpenRfc.Classic
