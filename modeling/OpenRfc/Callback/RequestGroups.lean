import OpenRfc.ErrorEnvelope.Decoder
import OpenRfc.Classic.TableRow
import OpenRfc.Foundation.Cursor
import OpenRfc.Xrfc.Tag

/-!
Requests which the server sends back to the client. The fields of the chain are read with a
cursor: a name takes the value behind it, a table its header and its rows, an xRFC document its
chunks up to the closing boundary.
-/

namespace OpenRfc.Callback
open Fallible Cpic Values
open JsString (codeUnits codeUnits_utf16le)

/-- `/[\u0001-\u001f\u007f]/u` -/
def isControl (unit : UInt16) : Bool := (1 ≤ unit && unit ≤ 0x1f) || unit == 0x7f

def callbackName (value : JsString) (path : String) (maximum : Nat) : Except String JsString := do
  assertUnicodeScalarText value path
  require (1 ≤ value.length ∧ value.length ≤ maximum ∧ 0 ∉ value ∧ ¬ value.any isControl)
    s!"{path} must contain 1..{maximum} Unicode scalar characters without controls"
  .ok value

/-- `s.replace(/[ \0]+$/u, "")` -/
def trimTrailingBlanks (s : JsString) : JsString := s.rdropWhile fun unit => unit == 0x20 || unit == 0

def decodeCallbackName (value : Bytes) (path : String) (maximum : Nat) :
    Except String JsString := do
  require (value.length % 2 = 0) s!"{path} must contain an even number of UTF-16LE bytes"
  callbackName (trimTrailingBlanks (codeUnits value)) path maximum

/-- A name without control characters and without a blank behind it. -/
def PlainName (name : JsString) : Prop :=
  name.any isControl = false ∧ name.getLast? ≠ some 0x20

instance (name : JsString) : Decidable (PlainName name) := inferInstanceAs (Decidable (_ ∧ _))

theorem callbackName_eq_ok {value name : JsString} {path : String} {maximum : Nat} :
    callbackName value path maximum = .ok name ↔
      NameFits value maximum ∧ value.any isControl = false ∧ value = name := by
  simp only [callbackName, bind_eq_ok, assertUnicodeScalarText_eq_ok, require_eq_ok, exists_const,
    Except.ok.injEq, NameFits, Bool.not_eq_true]
  constructor
  · rintro ⟨hformed, ⟨hmin, hmax, hnul, hcontrol⟩, hname⟩
    exact ⟨⟨hmin, hmax, hnul, hformed⟩, hcontrol, hname⟩
  · rintro ⟨⟨hmin, hmax, hnul, hformed⟩, hcontrol, hname⟩
    exact ⟨hformed, ⟨hmin, hmax, hnul, hcontrol⟩, hname⟩

theorem trimTrailingBlanks_of {name : JsString} (hnul : 0 ∉ name)
    (hblank : name.getLast? ≠ some 0x20) : trimTrailingBlanks name = name := by
  apply List.rdropWhile_eq_self_iff.mpr
  intro hne
  rw [List.getLast?_eq_some_getLast hne] at hblank
  have hzero : name.getLast hne ≠ 0 := fun he => hnul (he ▸ List.getLast_mem hne)
  simp only [Bool.or_eq_true, beq_iff_eq, not_or]
  exact ⟨fun he => hblank (congrArg some he), hzero⟩

/-- A plain name is read as it has been written. -/
theorem decodeCallbackName_utf16le {name : JsString} {maximum : Nat} (hfits : NameFits name maximum)
    (hplain : PlainName name) (path : String) :
    decodeCallbackName name.utf16le path maximum = .ok name := by
  have heven : name.utf16le.length % 2 = 0 := by
    rw [JsString.length_utf16le]
    omega
  rw [decodeCallbackName, require_of heven, ok_bind, codeUnits_utf16le,
    trimTrailingBlanks_of hfits.2.2.1 hplain.2, callbackName_eq_ok]
  exact ⟨hfits, hplain.1, rfl⟩

open Fallible Cursor Cpic Classic Xrfc

structure RfcCallbackXrfcParameter extends CpicNamedValue where
  chunkCount : Nat
deriving DecidableEq, Repr

structure RfcCallbackRequest where
  functionName : JsString
  kernelRelease : JsString
  requestedOutputs : List JsString
  imports : List CpicNamedValue
  tables : List CpicTable
  xrfcParameters : List RfcCallbackXrfcParameter
deriving DecidableEq, Repr

/-- `isCpicRfcCallbackRequest` -/
def isCpicRfcCallbackRequest (payload : Bytes) : Bool :=
  payload.take cpicCutFunctionRequestPrefix.length == cpicCutFunctionRequestPrefix

def boundedCallbackSnapshot (value : Bytes) (path : String) : Except String Bytes := do
  require (value.length ≤ defaultMaxCpicFieldChainLength)
    s!"{path} exceeds {defaultMaxCpicFieldChainLength} bytes"
  .ok value

def exactCallbackTrailer (payload : Bytes) (prefixLength bytesConsumed : Nat) :
    Except String Unit :=
  let trailerOffset := prefixLength + bytesConsumed
  require (payload.length - trailerOffset = 2 ∧
      (Bytes.number (payload.drop trailerOffset) : Int) = CpicTag.end)
    "callback CUT request trailer is invalid"

/-- The variables of the loop over the fields. -/
structure Collected where
  functionName : Option JsString := none
  kernelRelease : JsString := []
  requestedOutputs : List JsString := []
  imports : List CpicNamedValue := []
  tables : List CpicTable := []
  xrfcParameters : List RfcCallbackXrfcParameter := []
  names : List JsString := []
  decodedTableBytes : Nat := 0
deriving DecidableEq, Repr

section Cases

def repeatsInputParameter (name : JsString) : String :=
  s!"callback CUT request repeats input parameter {name.text}"

def readKernel (s : Collected) (field : CpicField) : Except String (Collected × Nat) := do
  require (s.kernelRelease = []) "callback CUT request repeats its kernel release"
  let kernelRelease ← decodeCallbackName field.value "callback kernel release" 16
  .ok ({ s with kernelRelease }, 0)

def readFunction (s : Collected) (field : CpicField) : Except String (Collected × Nat) := do
  require (s.functionName = none) "callback CUT request repeats its function name"
  let functionName ← decodeCallbackName field.value "callback function name" 40
  .ok ({ s with functionName }, 0)

def readCallContext (s : Collected) (field : CpicField) : Except String (Collected × Nat) := do
  require (field.value = []) "callback call-context control must be empty"
  .ok (s, 0)

def readRequestedOutput (s : Collected) (field : CpicField) :
    Except String (Collected × Nat) := do
  let name ← decodeCallbackName field.value "callback requested output name" 30
  require (name ∉ s.requestedOutputs)
    s!"callback CUT request repeats requested output {name.text}"
  .ok ({ s with requestedOutputs := s.requestedOutputs ++ [name] }, 0)

def readImport (s : Collected) (field : CpicField) :
    List CpicField → Except String (Collected × Nat)
  | [] => .error "callback parameter name is not followed by its value"
  | valueField :: _ => do
    require (valueField.tag = CpicTag.parameterValue)
      "callback parameter name is not followed by its value"
    let name ← decodeCallbackName field.value "callback import name" 30
    require (name ∉ s.names) (repeatsInputParameter name)
    .ok ({ s with
      imports := s.imports ++ [⟨name, valueField.value⟩]
      names := s.names ++ [name] }, 1)

def isRow (field : CpicField) : Bool :=
  field.tag == CpicTag.tableContent || field.tag == CpicTag.tableCompr

/-- The row of one field, and the number of bytes which it counts for. -/
def readRow (name : JsString) (rowByteLength index : Nat) (field : CpicField) :
    Except String Bytes :=
  if field.tag = CpicTag.tableCompr then
    decodeSimpleCompressedTableRow field.value rowByteLength name index
  else .ok field.value

def retainedByteLength (rowByteLength : Nat) (field : CpicField) : Nat :=
  if field.tag = CpicTag.tableCompr then rowByteLength else field.value.length

/-- The loop over the rows of a table: the rows which are left, and the bytes of all tables. -/
def readRows (name : JsString) (rowByteLength rowCount : Nat) :
    Nat → Nat → Nat → List CpicField → Except String (List Bytes × Nat)
  | _, _, decodedTableBytes, [] => .ok ([], decodedTableBytes)
  | index, tableDecodedBytes, decodedTableBytes, field :: fields =>
    if index < rowCount ∧ isRow field then do
      require (field.value.length ≠ 0 ∧ field.value.length ≤ rowByteLength)
        s!"callback table {name.text} row {index} has invalid length"
      let tableDecodedBytes := tableDecodedBytes + retainedByteLength rowByteLength field
      require (tableDecodedBytes ≤ defaultMaxCpicFieldChainLength)
        s!"callback table {name.text} decoded bytes exceed {defaultMaxCpicFieldChainLength}"
      let decodedTableBytes := decodedTableBytes + retainedByteLength rowByteLength field
      require (decodedTableBytes ≤ defaultMaxCpicFieldChainLength)
        s!"callback decoded table bytes exceed {defaultMaxCpicFieldChainLength}"
      let row ← readRow name rowByteLength index field
      let (rows, decodedTableBytes) ←
        readRows name rowByteLength rowCount (index + 1) tableDecodedBytes decodedTableBytes fields
      .ok (row :: rows, decodedTableBytes)
    else .ok ([], decodedTableBytes)

def readTable (s : Collected) (field : CpicField) :
    List CpicField → Except String (Collected × Nat)
  | [] => .error "callback table name is not followed by an eight-byte header"
  | headerField :: fields => do
    require (headerField.tag = CpicTag.tableHeader ∧ headerField.value.length = 8)
      "callback table name is not followed by an eight-byte header"
    let name ← decodeCallbackName field.value "callback table name" 30
    require (name ∉ s.names) (repeatsInputParameter name)
    let rowByteLength := Bytes.number (Bytes.slice headerField.value 0 4)
    let rowCount := Bytes.number (Bytes.slice headerField.value 4 4)
    let (rows, decodedTableBytes) ←
      readRows name rowByteLength rowCount 0 0 s.decodedTableBytes fields
    require (rows.length = rowCount)
      s!"callback table {name.text} declares {rowCount} rows but found {rows.length}"
    .ok ({ s with
      tables := s.tables ++ [⟨name, rowByteLength, rows⟩]
      names := s.names ++ [name]
      decodedTableBytes }, 1 + rows.length)

/-- The loop over the chunks of an xRFC document. -/
def readChunks : Nat → List CpicField → Except String (List Bytes)
  | _, [] => .ok []
  | byteLength, field :: fields =>
    if field.tag = CpicTag.xRfcData then do
      require (field.value ≠ []) "callback xRFC chunk must not be empty"
      let byteLength := byteLength + field.value.length
      require (byteLength ≤ defaultMaxCpicFieldChainLength)
        "callback xRFC parameter exceeds its byte limit"
      let chunks ← readChunks byteLength fields
      .ok (field.value :: chunks)
    else .ok []

def readXrfcParameter (s : Collected) (field : CpicField) (fields : List CpicField) :
    Except String (Collected × Nat) := do
  require (field.value = []) "callback xRFC boundary must be empty"
  let chunks ← readChunks 0 fields
  require (chunks ≠ [] ∧ fields[chunks.length]? = some ⟨CpicTag.xRfcParameter, []⟩)
    "callback xRFC parameter lacks its closing boundary"
  let name ← decodeRecursiveXrfcParameterName chunks.flatten
  require (name ∉ s.names) (repeatsInputParameter name)
  .ok ({ s with
    xrfcParameters := s.xrfcParameters ++ [⟨⟨name, chunks.flatten⟩, chunks.length⟩]
    names := s.names ++ [name] }, chunks.length + 1)

end Cases

/-- One turn of the loop. -/
def collect (s : Collected) (field : CpicField) (fields : List CpicField) :
    Except String (Collected × Nat) :=
  if field.tag = CpicTag.kernel then readKernel s field
  else if field.tag = CpicTag.function then readFunction s field
  else if field.tag = CpicTag.callContext then readCallContext s field
  else if field.tag = CpicTag.requestedOutput then readRequestedOutput s field
  else if field.tag = CpicTag.parameterName then readImport s field fields
  else if field.tag = CpicTag.tableName then readTable s field fields
  else if field.tag = CpicTag.xRfcParameter then readXrfcParameter s field fields
  else if field.tag = CpicTag.end then .ok (s, 0)
  else if field.tag = CpicTag.parameterValue then
    .error "callback parameter value has no preceding name"
  else if field.tag = CpicTag.tableHeader ∨ field.tag = CpicTag.tableContent ∨
      field.tag = CpicTag.tableCompr then
    .error "callback table record has no preceding table name"
  else if field.tag = CpicTag.xRfcData then .error "callback xRFC data has no opening boundary"
  else .error s!"callback CUT request contains unsupported tag {tagText field.tag}"

/-- What has been collected, behind the loop. -/
def Collected.request (s : Collected) : Except String RfcCallbackRequest :=
  match s.functionName with
  | none => .error "callback CUT request lacks a function name"
  | some functionName => .ok
    { functionName
      kernelRelease := s.kernelRelease
      requestedOutputs := s.requestedOutputs
      imports := s.imports
      tables := s.tables
      xrfcParameters := s.xrfcParameters }

def decodeCpicRfcCallbackRequest (payload : Bytes) : Except String RfcCallbackRequest := do
  require (isCpicRfcCallbackRequest payload) "callback CUT request prefix is invalid"
  let snapshot ← boundedCallbackSnapshot payload "callback CUT request"
  let decoded ← decodeCpicFieldChainPrefix (snapshot.drop cpicCutFunctionRequestPrefix.length)
    CpicTag.contextEnd CpicTag.end
  exactCallbackTrailer snapshot cpicCutFunctionRequestPrefix.length decoded.bytesConsumed
  let s ← scan collect 0 {} decoded.fields
  s.request

/-!
The groups of fields which the encoder of requests writes are read by the loop over the fields,
each in one turn.
-/

/-- The bytes of the rows of a table, and of the values of a list of fields. -/
def tableBytes (table : CpicTable) : Nat := (table.rows.map List.length).sum

def valueBytes (fields : List CpicField) : Nat := (fields.map fun field => field.value.length).sum

namespace Collected

def addRequestedOutput (s : Collected) (name : JsString) : Collected :=
  { s with requestedOutputs := s.requestedOutputs ++ [name] }

def addImport (s : Collected) (parameter : CpicNamedValue) : Collected :=
  { s with imports := s.imports ++ [parameter], names := s.names ++ [parameter.name] }

def addTable (s : Collected) (table : CpicTable) : Collected :=
  { s with
    tables := s.tables ++ [table]
    names := s.names ++ [table.name]
    decodedTableBytes := s.decodedTableBytes + tableBytes table }

def xrfcParameter (parameter : CpicNamedValue) : RfcCallbackXrfcParameter :=
  ⟨parameter, (Bytes.chunks classicXrfcXmlChunkLength parameter.value).length⟩

def addXrfcParameter (s : Collected) (parameter : CpicNamedValue) : Collected :=
  { s with
    xrfcParameters := s.xrfcParameters ++ [xrfcParameter parameter]
    names := s.names ++ [parameter.name] }

variable {s : Collected}

theorem foldl_addRequestedOutput (names : List JsString) :
    names.foldl addRequestedOutput s =
      { s with requestedOutputs := s.requestedOutputs ++ names } := by
  induction names generalizing s with
  | nil => simp
  | cons name names ih => simp [ih, addRequestedOutput]

theorem foldl_addImport (parameters : List CpicNamedValue) :
    parameters.foldl addImport s =
      { s with
        imports := s.imports ++ parameters
        names := s.names ++ parameters.map CpicNamedValue.name } := by
  induction parameters generalizing s with
  | nil => simp
  | cons parameter parameters ih => simp [ih, addImport]

theorem foldl_addTable (tables : List CpicTable) :
    tables.foldl addTable s =
      { s with
        tables := s.tables ++ tables
        names := s.names ++ tables.map CpicTable.name
        decodedTableBytes := s.decodedTableBytes + (tables.map tableBytes).sum } := by
  induction tables generalizing s with
  | nil => simp
  | cons table tables ih => simp [ih, addTable, Nat.add_assoc]

theorem foldl_addXrfcParameter (parameters : List CpicNamedValue) :
    parameters.foldl addXrfcParameter s =
      { s with
        xrfcParameters := s.xrfcParameters ++ parameters.map xrfcParameter
        names := s.names ++ parameters.map CpicNamedValue.name } := by
  induction parameters generalizing s with
  | nil => simp
  | cons parameter parameters ih => simp [ih, addXrfcParameter]

end Collected
open Collected

section Groups
variable {s : Collected}

theorem readsGroup_requestedOutput :
    ReadsGroup collect requestedOutputGroup addRequestedOutput fun s name =>
      NameFits name 30 ∧ PlainName name ∧ name ∉ s.requestedOutputs := by
  rintro s name rest ⟨hfits, hplain, hnew⟩
  refine ⟨_, [], rfl, ?_⟩
  change readRequestedOutput s ⟨CpicTag.requestedOutput, name.utf16le⟩ = _
  simp only [readRequestedOutput, decodeCallbackName_utf16le hfits hplain, ok_bind,
    require_of hnew]
  rfl

theorem readsGroup_import :
    ReadsGroup collect namedValueGroup addImport fun s parameter =>
      NameFits parameter.name 30 ∧ PlainName parameter.name ∧ parameter.name ∉ s.names := by
  rintro s parameter rest ⟨hfits, hplain, hnew⟩
  refine ⟨_, [⟨CpicTag.parameterValue, parameter.value⟩], rfl, ?_⟩
  change readImport s ⟨CpicTag.parameterName, parameter.name.utf16le⟩
    (⟨CpicTag.parameterValue, parameter.value⟩ :: rest) = _
  simp only [readImport, decodeCallbackName_utf16le hfits hplain, ok_bind, require_of hnew,
    require_of trivial]
  rfl

/-- The rows of a table are read, up to the number which its header declares. -/
theorem readRows_full {name : JsString} {rowByteLength rowCount index tableDecodedBytes
      decodedTableBytes : Nat} {rows : List Bytes} (hcount : index + rows.length = rowCount)
    (hrows : ∀ row ∈ rows, row.length = rowByteLength) (hwidth : rows.length = 0 ∨ rowByteLength ≠ 0)
    (htable : tableDecodedBytes ≤ decodedTableBytes)
    (hbytes : decodedTableBytes + (rows.map List.length).sum ≤ defaultMaxCpicFieldChainLength)
    (rest : List CpicField) :
    readRows name rowByteLength rowCount index tableDecodedBytes decodedTableBytes
        ((rows.map fun row => ⟨CpicTag.tableCompr, row⟩) ++ rest) =
      .ok (rows, decodedTableBytes + (rows.map List.length).sum) := by
  induction rows generalizing index tableDecodedBytes decodedTableBytes with
  | nil =>
      have hdone : ¬ index < rowCount := by
        rw [← hcount]
        exact Nat.lt_irrefl _
      cases rest with
      | nil => rfl
      | cons field rest =>
          change readRows name rowByteLength rowCount index tableDecodedBytes decodedTableBytes
            (field :: rest) = _
          rw [readRows, if_neg fun h => hdone h.1]
          rfl
  | cons row rows ih =>
      rw [List.forall_mem_cons] at hrows
      rw [List.length_cons] at hcount
      have hsum : ((row :: rows).map List.length).sum =
          rowByteLength + (rows.map List.length).sum := by
        rw [List.map_cons, List.sum_cons, hrows.1]
      rw [hsum] at hbytes ⊢
      have hne : rowByteLength ≠ 0 := hwidth.resolve_left (Nat.succ_ne_zero _)
      have hcond : index < rowCount ∧ isRow ⟨CpicTag.tableCompr, row⟩ = true := ⟨by omega, rfl⟩
      have hlength : row.length ≠ 0 ∧ row.length ≤ rowByteLength := by omega
      have hretained : retainedByteLength rowByteLength ⟨CpicTag.tableCompr, row⟩ =
          rowByteLength := rfl
      have hrow : readRow name rowByteLength index ⟨CpicTag.tableCompr, row⟩ = .ok row :=
        decodeSimpleCompressedTableRow_full hlength.1 hrows.1 name index
      rw [List.map_cons, List.cons_append, readRows, if_pos hcond]
      simp only [require_of hlength, ok_bind, hretained, hrow]
      rw [require_of (by omega), ok_bind, require_of (by omega), ok_bind,
        ih (by omega) hrows.2 (Or.inr hne) (by omega) (by omega), ok_bind, Nat.add_assoc]

theorem readsGroup_table :
    ReadsGroup collect tableGroup addTable fun s table =>
      TableFits table ∧ PlainName table.name ∧ table.name ∉ s.names ∧
        s.decodedTableBytes + tableBytes table ≤ defaultMaxCpicFieldChainLength := by
  rintro s table rest ⟨hfits, hplain, hnew, hbytes⟩
  have hname := hfits.name
  have hheader : (⟨CpicTag.tableHeader,
      tableHeader table.rowByteLength.toNat table.rows.length⟩ : CpicField).tag =
        CpicTag.tableHeader ∧
      (tableHeader table.rowByteLength.toNat table.rows.length).length = 8 :=
    ⟨rfl, by simp [tableHeader]⟩
  have hwidthBound := hfits.width
  have hcountBound := hfits.count
  have hwidth : Bytes.number (Bytes.bigEndian 4 table.rowByteLength.toNat) =
      table.rowByteLength.toNat := Bytes.number_bigEndian 4 (by omega)
  have hcount : Bytes.number (Bytes.bigEndian 4 table.rows.length) = table.rows.length :=
    Bytes.number_bigEndian 4 (by omega)
  have hrows : ∀ row ∈ table.rows, row.length = table.rowByteLength.toNat := by
    intro row hrow
    have hlength := hfits.rows row hrow
    omega
  have hempty : table.rows.length = 0 ∨ table.rowByteLength.toNat ≠ 0 := by
    have hempty := hfits.empty
    omega
  refine ⟨_, _, rfl, ?_⟩
  change readTable s ⟨CpicTag.tableName, table.name.utf16le⟩
    (⟨CpicTag.tableHeader, tableHeader table.rowByteLength.toNat table.rows.length⟩ ::
      ((table.rows.map fun row => ⟨CpicTag.tableCompr, row⟩) ++ rest)) = _
  rw [readTable, require_of hheader]
  simp only [ok_bind, decodeCallbackName_utf16le hname hplain,
    require_of hnew, slice_tableHeader_width, slice_tableHeader_count, hwidth, hcount]
  rw [readRows_full (Nat.zero_add _) hrows hempty (Nat.zero_le _) hbytes]
  simp only [ok_bind, require_of trivial, Int.toNat_of_nonneg hwidthBound.1]
  rw [List.length_cons, List.length_map, Nat.add_comm 1]
  rfl

/-- The chunks of a document are read, up to its closing boundary. -/
theorem readChunks_chunks {chunks : List Bytes} {byteLength : Nat}
    (hne : ∀ chunk ∈ chunks, chunk ≠ [])
    (hbytes : byteLength + chunks.flatten.length ≤ defaultMaxCpicFieldChainLength)
    (rest : List CpicField) :
    readChunks byteLength ((chunks.map fun chunk => ⟨CpicTag.xRfcData, chunk⟩) ++
      ⟨CpicTag.xRfcParameter, []⟩ :: rest) = .ok chunks := by
  induction chunks generalizing byteLength with
  | nil => rfl
  | cons chunk chunks ih =>
      rw [List.forall_mem_cons] at hne
      rw [List.flatten_cons, List.length_append] at hbytes
      rw [List.map_cons, List.cons_append, readChunks, if_pos rfl]
      dsimp only
      rw [require_of hne.1, ok_bind, require_of (by omega), ok_bind, ih hne.2 (by omega), ok_bind]

theorem chunks_classic_ne_nil {value chunk : Bytes}
    (h : chunk ∈ Bytes.chunks classicXrfcXmlChunkLength value) : chunk ≠ [] :=
  Bytes.ne_nil_of_mem_chunks (by decide) h

theorem flatten_classic_chunks (value : Bytes) :
    (Bytes.chunks classicXrfcXmlChunkLength value).flatten = value :=
  Bytes.flatten_chunks (by decide) value

theorem readsGroup_xrfcParameter :
    ReadsGroup collect xrfcGroup addXrfcParameter fun s parameter =>
      parameter.value.length ≤ defaultMaxCpicFieldChainLength ∧ parameter.value.length ≠ 0 ∧
        decodeRecursiveXrfcParameterName parameter.value = .ok parameter.name ∧
        parameter.name ∉ s.names := by
  rintro s parameter rest ⟨hbytes, hvalue, hroot, hnew⟩
  have hflatten := flatten_classic_chunks parameter.value
  have hchunks : Bytes.chunks classicXrfcXmlChunkLength parameter.value ≠ [] := by
    intro hnil
    rw [hnil, List.flatten_nil] at hflatten
    exact hvalue (congrArg List.length hflatten.symm)
  have hread := readChunks_chunks (fun _ => chunks_classic_ne_nil)
    (by rw [hflatten, Nat.zero_add]; exact hbytes) rest
  refine ⟨_, ((Bytes.chunks classicXrfcXmlChunkLength parameter.value).map fun chunk =>
    ⟨CpicTag.xRfcData, chunk⟩) ++ [⟨CpicTag.xRfcParameter, []⟩], rfl, ?_⟩
  rw [List.append_assoc, List.singleton_append]
  generalize hgroup : ((Bytes.chunks classicXrfcXmlChunkLength parameter.value).map fun chunk =>
    (⟨CpicTag.xRfcData, chunk⟩ : CpicField)) ++ ⟨CpicTag.xRfcParameter, []⟩ :: rest = fields
    at hread ⊢
  have hclosing : fields[(Bytes.chunks classicXrfcXmlChunkLength parameter.value).length]? =
      some ⟨CpicTag.xRfcParameter, []⟩ := by
    rw [← hgroup, List.getElem?_append_right (by rw [List.length_map]), List.length_map,
      Nat.sub_self]
    rfl
  change readXrfcParameter s ⟨CpicTag.xRfcParameter, []⟩ fields = _
  simp only [readXrfcParameter, require_of trivial, ok_bind, hread, hflatten, hroot,
    require_of hnew, require_of (And.intro hchunks hclosing)]
  rw [List.length_append, List.length_map]
  rfl

end Groups
end OpenRfc.Callback
