import OpenRfc.Cpic.Framing
import OpenRfc.Values.UnicodeScalar

/-!
Requests of an established session. The names and the values of a call are fields of one chain:
a name in front of its value, a table as its name, its header and its rows, an xRFC document as
its chunks between two boundaries.
-/

namespace OpenRfc.Cpic
open Fallible Values

def classicXrfcXmlChunkLength : Nat := 16 * 1024
def cpicCutFunctionRequestPrefix : Bytes := [0x05, 0x02, 0x00, 0x00]

structure CpicNamedValue where
  name : JsString
  value : Bytes
deriving DecidableEq, Repr

structure CpicTable where
  name : JsString
  rowByteLength : Int
  rows : List Bytes
deriving DecidableEq, Repr

structure CpicCutFunctionRequestInput where
  functionName : JsString
  requestedOutputs : List JsString := []
  imports : List CpicNamedValue := []
  tables : List CpicTable := []
  xrfcParameters : List CpicNamedValue := []
  kernelRelease : Option JsString := none
  maximumRfcPacketSize : Option Int := none
deriving DecidableEq, Repr

/-- `"754"` -/
def defaultKernelRelease : JsString := [0x37, 0x35, 0x34]

def CpicCutFunctionRequestInput.release (input : CpicCutFunctionRequestInput) : JsString :=
  input.kernelRelease.getD defaultKernelRelease

/-- `/^\d{3}$/` -/
def isKernelRelease (s : JsString) : Bool :=
  s.length == 3 && s.all fun unit => 0x30 ≤ unit && unit ≤ 0x39

def unicode (value : JsString) (field : String) (maximumCharacters : Nat) :
    Except String Bytes := do
  require (1 ≤ value.length ∧ value.length ≤ maximumCharacters ∧ 0 ∉ value ∧ value.isWellFormed)
    s!"{field} must contain 1..{maximumCharacters} Unicode scalar characters without NUL"
  .ok value.utf16le

def checkedMaximumRfcPacketSize (value : Option Int) : Except String Nat := do
  let maximumRfcPacketSize := value.getD 0x8500
  require (0 ≤ maximumRfcPacketSize ∧ maximumRfcPacketSize ≤ 0xffffffff)
    "maximumRfcPacketSize must be an unsigned 32-bit integer"
  .ok maximumRfcPacketSize.toNat

/-- The loop over the names, with those which it has seen. -/
def rejectDuplicatesOf (message : JsString → String) :
    List JsString → List JsString → Except String Unit
  | _, [] => .ok ()
  | seen, value :: values => do
    require (value ∉ seen) (message value)
    rejectDuplicatesOf message (value :: seen) values

def rejectDuplicates (values : List JsString) (kind : String) : Except String Unit :=
  rejectDuplicatesOf (fun value => s!"duplicate {kind} {value.text}") [] values

section Fields

def requestedOutputFields (name : JsString) : Except String (List CpicField) := do
  let name ← unicode name "requested output name" 30
  .ok [⟨CpicTag.requestedOutput, name⟩]

def importFields (parameter : CpicNamedValue) : Except String (List CpicField) := do
  let name ← unicode parameter.name "import name" 30
  .ok [⟨CpicTag.parameterName, name⟩, ⟨CpicTag.parameterValue, parameter.value⟩]

def tableHeader (rowByteLength rowCount : Nat) : Bytes :=
  Bytes.bigEndian 4 rowByteLength ++ Bytes.bigEndian 4 rowCount

/-- The rows behind an index, each at its full width. -/
def rowFields (table : CpicTable) : Nat → List Bytes → Except String (List CpicField)
  | _, [] => .ok []
  | index, row :: rows => do
    require ((row.length : Int) = table.rowByteLength)
      s!"{table.name.text} row {index} contains {row.length} bytes; expected {table.rowByteLength}"
    let fields ← rowFields table (index + 1) rows
    .ok (⟨CpicTag.tableCompr, row⟩ :: fields)

def tableFields (table : CpicTable) : Except String (List CpicField) := do
  require (0 ≤ table.rowByteLength ∧ table.rowByteLength ≤ 0xffffffff)
    s!"{table.name.text} rowByteLength must be an unsigned 32-bit integer"
  require (table.rows.length ≤ 0xffffffff)
    s!"{table.name.text} row count exceeds the unsigned 32-bit range"
  require (table.rows.length = 0 ∨ table.rowByteLength ≠ 0)
    s!"{table.name.text} cannot contain zero-width rows"
  let name ← unicode table.name "table name" 30
  let rows ← rowFields table 0 table.rows
  .ok (⟨CpicTag.tableName, name⟩ ::
    ⟨CpicTag.tableHeader, tableHeader table.rowByteLength.toNat table.rows.length⟩ :: rows)

/-- The fields of an xRFC document. -/
def xrfcValueFields (value : Bytes) : List CpicField :=
  ⟨CpicTag.xRfcParameter, []⟩ ::
    ((Bytes.chunks classicXrfcXmlChunkLength value).map fun chunk => ⟨CpicTag.xRfcData, chunk⟩) ++
    [⟨CpicTag.xRfcParameter, []⟩]

def xrfcParameterFields (parameter : CpicNamedValue) : Except String (List CpicField) := do
  let _ ← unicode parameter.name "xRFC parameter name" 30
  require (parameter.value.length ≠ 0)
    s!"{parameter.name.text} xRFC XML value must not be empty"
  .ok (xrfcValueFields parameter.value)

/-- The fields of all entries of a list. -/
def fieldsOf {α : Type} (fields : α → Except String (List CpicField)) :
    List α → Except String (List CpicField)
  | [] => .ok []
  | x :: xs => do
    let first ← fields x
    let rest ← fieldsOf fields xs
    .ok (first ++ rest)

def cutFunctionRequestFields (input : CpicCutFunctionRequestInput) :
    Except String (List CpicField) := do
  let functionName ← unicode input.functionName "functionName" 40
  let requestedOutputs ← fieldsOf requestedOutputFields input.requestedOutputs
  let imports ← fieldsOf importFields input.imports
  let tables ← fieldsOf tableFields input.tables
  let xrfcParameters ← fieldsOf xrfcParameterFields input.xrfcParameters
  .ok ([⟨CpicTag.kernel, input.release.utf16le⟩, ⟨CpicTag.function, functionName⟩,
      ⟨CpicTag.callContext, []⟩] ++ requestedOutputs ++ imports ++ tables ++ xrfcParameters ++
    [⟨CpicTag.end, []⟩])

end Fields

def checkNames (input : CpicCutFunctionRequestInput) : Except String Unit := do
  rejectDuplicates input.requestedOutputs "requested output"
  rejectDuplicates (input.imports.map CpicNamedValue.name) "import"
  rejectDuplicates (input.tables.map CpicTable.name) "table"
  rejectDuplicates (input.xrfcParameters.map CpicNamedValue.name) "xRFC parameter"
  rejectDuplicatesOf (fun name => s!"duplicate input parameter {name.text}") []
    (input.imports.map CpicNamedValue.name ++ input.tables.map CpicTable.name ++
      input.xrfcParameters.map CpicNamedValue.name)

def encodeCpicCutFunctionRequest (input : CpicCutFunctionRequestInput) : Except String Bytes := do
  require (isKernelRelease input.release) "kernelRelease must contain exactly three ASCII digits"
  let maximumRfcPacketSize ← checkedMaximumRfcPacketSize input.maximumRfcPacketSize
  checkNames input
  let fields ← cutFunctionRequestFields input
  let chainByteLength ← cpicFieldChainByteLength CpicTag.contextEnd fields {}
  let chain ← encodeCpicFieldChain CpicTag.contextEnd fields
  .ok (cpicCutFunctionRequestPrefix ++ chain ++
    packetTrailer (cpicCutFunctionRequestPrefix.length + chainByteLength) maximumRfcPacketSize)

section Names

/-- A name which fits into its field. -/
def NameFits (name : JsString) (maximumCharacters : Nat) : Prop :=
  1 ≤ name.length ∧ name.length ≤ maximumCharacters ∧ 0 ∉ name ∧ name.isWellFormed

instance (name : JsString) (maximumCharacters : Nat) : Decidable (NameFits name maximumCharacters) :=
  inferInstanceAs (Decidable (_ ∧ _))

theorem unicode_eq_ok {value : JsString} {field : String} {maximumCharacters : Nat}
    {encoded : Bytes} :
    unicode value field maximumCharacters = .ok encoded ↔
      NameFits value maximumCharacters ∧ value.utf16le = encoded := by
  simp only [unicode, bind_eq_ok, require_eq_ok, exists_const, Except.ok.injEq]
  rfl

theorem rejectDuplicatesOf_eq_ok {message : JsString → String} {values seen : List JsString}
    {u : Unit} :
    rejectDuplicatesOf message seen values = .ok u ↔
      (∀ value ∈ values, value ∉ seen) ∧ values.Nodup := by
  induction values generalizing seen with
  | nil => exact iff_of_true rfl ⟨nofun, List.nodup_nil⟩
  | cons value values ih =>
      simp only [rejectDuplicatesOf, bind_eq_ok, require_eq_ok, exists_const, ih,
        List.forall_mem_cons, List.nodup_cons]
      constructor
      · rintro ⟨hvalue, hvalues, hnodup⟩
        refine ⟨⟨hvalue, fun v hv => ?_⟩, fun hmem => ?_, hnodup⟩
        · exact fun hseen => hvalues v hv (List.mem_cons_of_mem _ hseen)
        · exact hvalues value hmem List.mem_cons_self
      · rintro ⟨⟨hvalue, hvalues⟩, hmem, hnodup⟩
        refine ⟨hvalue, fun v hv hseen => ?_, hnodup⟩
        rcases List.mem_cons.mp hseen with rfl | hseen
        · exact hmem hv
        · exact hvalues v hv hseen

theorem rejectDuplicates_eq_ok {values : List JsString} {kind : String} {u : Unit} :
    rejectDuplicates values kind = .ok u ↔ values.Nodup := by
  rw [rejectDuplicates, rejectDuplicatesOf_eq_ok]
  exact and_iff_right fun _ _ => List.not_mem_nil

def CpicCutFunctionRequestInput.names (input : CpicCutFunctionRequestInput) : List JsString :=
  input.imports.map CpicNamedValue.name ++ input.tables.map CpicTable.name ++
    input.xrfcParameters.map CpicNamedValue.name

theorem checkNames_eq_ok {input : CpicCutFunctionRequestInput} {u : Unit} :
    checkNames input = .ok u ↔ input.requestedOutputs.Nodup ∧ input.names.Nodup := by
  simp only [checkNames, bind_eq_ok, rejectDuplicates_eq_ok, rejectDuplicatesOf_eq_ok,
    exists_const]
  constructor
  · rintro ⟨houtputs, -, -, -, -, hnames⟩
    exact ⟨houtputs, hnames⟩
  · rintro ⟨houtputs, hnames⟩
    have hsplit := List.nodup_append.mp hnames
    have hsplit' := List.nodup_append.mp hsplit.1
    exact ⟨houtputs, hsplit'.1, hsplit'.2.1, hsplit.2.1, fun _ _ => List.not_mem_nil, hnames⟩

end Names

section Groups

theorem slice_tableHeader_width (rowByteLength rowCount : Nat) :
    Bytes.slice (tableHeader rowByteLength rowCount) 0 4 = Bytes.bigEndian 4 rowByteLength :=
  Bytes.slice_append [] _ _ rfl (Bytes.length_bigEndian 4 _).symm

theorem slice_tableHeader_count (rowByteLength rowCount : Nat) :
    Bytes.slice (tableHeader rowByteLength rowCount) 4 4 = Bytes.bigEndian 4 rowCount := by
  rw [tableHeader, ← List.append_nil (Bytes.bigEndian 4 rowCount), ← List.append_assoc]
  exact Bytes.slice_append _ _ _ (Bytes.length_bigEndian 4 _).symm
    (Bytes.length_bigEndian 4 _).symm

def requestedOutputGroup (name : JsString) : List CpicField :=
  [⟨CpicTag.requestedOutput, name.utf16le⟩]

def namedValueGroup (parameter : CpicNamedValue) : List CpicField :=
  [⟨CpicTag.parameterName, parameter.name.utf16le⟩, ⟨CpicTag.parameterValue, parameter.value⟩]

def tableGroup (table : CpicTable) : List CpicField :=
  ⟨CpicTag.tableName, table.name.utf16le⟩ ::
    ⟨CpicTag.tableHeader, tableHeader table.rowByteLength.toNat table.rows.length⟩ ::
    table.rows.map fun row => ⟨CpicTag.tableCompr, row⟩

def xrfcGroup (parameter : CpicNamedValue) : List CpicField := xrfcValueFields parameter.value

/-- A table whose rows have the width which it declares. -/
structure TableFits (table : CpicTable) : Prop where
  name : NameFits table.name 30
  width : 0 ≤ table.rowByteLength ∧ table.rowByteLength ≤ 0xffffffff
  count : table.rows.length ≤ 0xffffffff
  empty : table.rows.length = 0 ∨ table.rowByteLength ≠ 0
  rows : ∀ row ∈ table.rows, (row.length : Int) = table.rowByteLength

theorem fieldsOf_eq_ok {α : Type} {fields : α → Except String (List CpicField)}
    {Fits : α → Prop} {group : α → List CpicField}
    (h : ∀ x encoded, fields x = .ok encoded ↔ Fits x ∧ group x = encoded) {xs : List α}
    {encoded : List CpicField} :
    fieldsOf fields xs = .ok encoded ↔ (∀ x ∈ xs, Fits x) ∧ xs.flatMap group = encoded := by
  induction xs generalizing encoded with
  | nil =>
      rw [fieldsOf, Except.ok.injEq, List.flatMap_nil]
      exact (and_iff_right nofun).symm
  | cons x xs ih =>
      simp only [fieldsOf, bind_eq_ok, h, ih, Except.ok.injEq, List.forall_mem_cons,
        List.flatMap_cons]
      constructor
      · rintro ⟨_, ⟨hx, rfl⟩, _, ⟨hxs, rfl⟩, rfl⟩
        exact ⟨⟨hx, hxs⟩, rfl⟩
      · rintro ⟨⟨hx, hxs⟩, rfl⟩
        exact ⟨_, ⟨hx, rfl⟩, _, ⟨hxs, rfl⟩, rfl⟩

theorem requestedOutputFields_eq_ok (name : JsString) (encoded : List CpicField) :
    requestedOutputFields name = .ok encoded ↔
      NameFits name 30 ∧ requestedOutputGroup name = encoded := by
  simp only [requestedOutputFields, bind_eq_ok, unicode_eq_ok, Except.ok.injEq]
  constructor
  · rintro ⟨_, ⟨hname, rfl⟩, rfl⟩
    exact ⟨hname, rfl⟩
  · rintro ⟨hname, rfl⟩
    exact ⟨_, ⟨hname, rfl⟩, rfl⟩

theorem importFields_eq_ok (parameter : CpicNamedValue) (encoded : List CpicField) :
    importFields parameter = .ok encoded ↔
      NameFits parameter.name 30 ∧ namedValueGroup parameter = encoded := by
  simp only [importFields, bind_eq_ok, unicode_eq_ok, Except.ok.injEq]
  constructor
  · rintro ⟨_, ⟨hname, rfl⟩, rfl⟩
    exact ⟨hname, rfl⟩
  · rintro ⟨hname, rfl⟩
    exact ⟨_, ⟨hname, rfl⟩, rfl⟩

theorem rowFields_eq_ok {table : CpicTable} {index : Nat} {rows : List Bytes}
    {encoded : List CpicField} :
    rowFields table index rows = .ok encoded ↔
      (∀ row ∈ rows, (row.length : Int) = table.rowByteLength) ∧
        (rows.map fun row => (⟨CpicTag.tableCompr, row⟩ : CpicField)) = encoded := by
  induction rows generalizing index encoded with
  | nil =>
      rw [rowFields, Except.ok.injEq, List.map_nil]
      exact (and_iff_right nofun).symm
  | cons row rows ih =>
      simp only [rowFields, bind_eq_ok, require_eq_ok, exists_const, ih, Except.ok.injEq,
        List.forall_mem_cons, List.map_cons]
      constructor
      · rintro ⟨hrow, _, ⟨hrows, rfl⟩, rfl⟩
        exact ⟨⟨hrow, hrows⟩, rfl⟩
      · rintro ⟨⟨hrow, hrows⟩, rfl⟩
        exact ⟨hrow, _, ⟨hrows, rfl⟩, rfl⟩

theorem tableFields_eq_ok (table : CpicTable) (encoded : List CpicField) :
    tableFields table = .ok encoded ↔ TableFits table ∧ tableGroup table = encoded := by
  simp only [tableFields, bind_eq_ok, require_eq_ok, exists_const, unicode_eq_ok, rowFields_eq_ok,
    Except.ok.injEq]
  constructor
  · rintro ⟨hwidth, hcount, hempty, _, ⟨hname, rfl⟩, _, ⟨hrows, rfl⟩, rfl⟩
    exact ⟨⟨hname, hwidth, hcount, hempty, hrows⟩, rfl⟩
  · rintro ⟨h, rfl⟩
    exact ⟨h.width, h.count, h.empty, _, ⟨h.name, rfl⟩, _, ⟨h.rows, rfl⟩, rfl⟩

theorem xrfcParameterFields_eq_ok (parameter : CpicNamedValue) (encoded : List CpicField) :
    xrfcParameterFields parameter = .ok encoded ↔
      (NameFits parameter.name 30 ∧ parameter.value.length ≠ 0) ∧
        xrfcGroup parameter = encoded := by
  simp only [xrfcParameterFields, bind_eq_ok, unicode_eq_ok, require_eq_ok, exists_const,
    Except.ok.injEq]
  constructor
  · rintro ⟨_, ⟨hname, -⟩, hvalue, rfl⟩
    exact ⟨⟨hname, hvalue⟩, rfl⟩
  · rintro ⟨⟨hname, hvalue⟩, rfl⟩
    exact ⟨_, ⟨hname, rfl⟩, hvalue, rfl⟩

end Groups

section Request
variable {input : CpicCutFunctionRequestInput}

/-- The fields of a request in front of the End field. -/
def CpicCutFunctionRequestInput.fields (input : CpicCutFunctionRequestInput) : List CpicField :=
  [⟨CpicTag.kernel, input.release.utf16le⟩, ⟨CpicTag.function, input.functionName.utf16le⟩,
      ⟨CpicTag.callContext, []⟩] ++ input.requestedOutputs.flatMap requestedOutputGroup ++
    input.imports.flatMap namedValueGroup ++ input.tables.flatMap tableGroup ++
    input.xrfcParameters.flatMap xrfcGroup

/-- What the encoder asks of the parts of a request. -/
structure RequestFits (input : CpicCutFunctionRequestInput) : Prop where
  release : isKernelRelease input.release = true
  packetSize : 0 ≤ input.maximumRfcPacketSize.getD 0x8500 ∧
    input.maximumRfcPacketSize.getD 0x8500 ≤ 0xffffffff
  functionName : NameFits input.functionName 40
  requestedOutputs : ∀ name ∈ input.requestedOutputs, NameFits name 30
  imports : ∀ parameter ∈ input.imports, NameFits parameter.name 30
  tables : ∀ table ∈ input.tables, TableFits table
  xrfcParameters : ∀ parameter ∈ input.xrfcParameters,
    NameFits parameter.name 30 ∧ parameter.value.length ≠ 0
  outputNames : input.requestedOutputs.Nodup
  inputNames : input.names.Nodup

/-- Requests which are accepted, and what is written for them. -/
theorem encodeCpicCutFunctionRequest_eq_ok {packet : Bytes} :
    encodeCpicCutFunctionRequest input = .ok packet ↔
      RequestFits input ∧ ∃ chain,
        encodeCpicFieldChain CpicTag.contextEnd (input.fields ++ [endField]) = .ok chain ∧
          cpicCutFunctionRequestPrefix ++ chain ++
            packetTrailer (cpicCutFunctionRequestPrefix.length + chain.length)
              (input.maximumRfcPacketSize.getD 0x8500).toNat = packet := by
  simp only [encodeCpicCutFunctionRequest, checkedMaximumRfcPacketSize, cutFunctionRequestFields,
    bind_eq_ok, require_eq_ok, exists_const, checkNames_eq_ok, unicode_eq_ok,
    fieldsOf_eq_ok requestedOutputFields_eq_ok, fieldsOf_eq_ok importFields_eq_ok,
    fieldsOf_eq_ok tableFields_eq_ok, fieldsOf_eq_ok xrfcParameterFields_eq_ok, Except.ok.injEq]
  constructor
  · rintro ⟨hrelease, _, ⟨hpacketSize, rfl⟩, ⟨houtputNames, hinputNames⟩, _,
      ⟨_, ⟨hfunctionName, rfl⟩, _, ⟨houtputs, rfl⟩, _, ⟨himports, rfl⟩, _, ⟨htables, rfl⟩, _,
        ⟨hxrfc, rfl⟩, rfl⟩, byteLength, hbyteLength, chain, hchain, hpacket⟩
    rw [cpicFieldChainByteLength_encoded hchain, Except.ok.injEq] at hbyteLength
    subst hbyteLength
    exact ⟨⟨hrelease, hpacketSize, hfunctionName, houtputs, himports, htables, hxrfc,
      houtputNames, hinputNames⟩, chain, hchain, hpacket⟩
  · rintro ⟨h, chain, hchain, hpacket⟩
    exact ⟨h.release, _, ⟨h.packetSize, rfl⟩, ⟨h.outputNames, h.inputNames⟩, _,
      ⟨_, ⟨h.functionName, rfl⟩, _, ⟨h.requestedOutputs, rfl⟩, _, ⟨h.imports, rfl⟩, _,
        ⟨h.tables, rfl⟩, _, ⟨h.xrfcParameters, rfl⟩, rfl⟩, _,
      cpicFieldChainByteLength_encoded hchain, chain, hchain, hpacket⟩

/-- The tags of the fields in front of the End field. -/
def callTags : List Int :=
  [CpicTag.kernel, CpicTag.function, CpicTag.callContext, CpicTag.requestedOutput,
    CpicTag.parameterName, CpicTag.parameterValue, CpicTag.tableName, CpicTag.tableHeader,
    CpicTag.tableCompr, CpicTag.xRfcParameter, CpicTag.xRfcData]

theorem tag_mem_callTags : ∀ field ∈ input.fields, field.tag ∈ callTags := by
  have hopening : ∀ field ∈ [⟨CpicTag.kernel, input.release.utf16le⟩,
      ⟨CpicTag.function, input.functionName.utf16le⟩, ⟨CpicTag.callContext, []⟩],
      (field : CpicField).tag ∈ callTags := by
    simp only [List.forall_mem_cons, List.not_mem_nil, false_implies, implies_true, and_true]
    decide
  have houtput (name : JsString) : ∀ field ∈ requestedOutputGroup name, field.tag ∈ callTags := by
    simp only [requestedOutputGroup, List.forall_mem_singleton]
    decide
  have hvalue (parameter : CpicNamedValue) :
      ∀ field ∈ namedValueGroup parameter, field.tag ∈ callTags := by
    simp only [namedValueGroup, List.forall_mem_cons, List.not_mem_nil, false_implies,
      implies_true, and_true]
    decide
  have htable (table : CpicTable) : ∀ field ∈ tableGroup table, field.tag ∈ callTags := by
    simp only [tableGroup, List.forall_mem_cons, List.forall_mem_map]
    exact ⟨by decide, by decide, fun _ _ => by decide⟩
  have hxrfc (parameter : CpicNamedValue) :
      ∀ field ∈ xrfcGroup parameter, field.tag ∈ callTags := by
    simp only [xrfcGroup, xrfcValueFields, List.cons_append, List.forall_mem_cons,
      List.forall_mem_append, List.forall_mem_map, List.not_mem_nil, false_implies, implies_true,
      and_true]
    exact ⟨by decide, fun _ _ => by decide, by decide⟩
  simp only [CpicCutFunctionRequestInput.fields, List.forall_mem_append, List.forall_mem_flatMap]
  exact ⟨⟨⟨⟨hopening, fun name _ => houtput name⟩, fun parameter _ => hvalue parameter⟩,
    fun table _ => htable table⟩, fun parameter _ => hxrfc parameter⟩

theorem callTags_range : ∀ tag ∈ callTags, 0 ≤ tag ∧ tag ≤ 0xffff := by decide

theorem callTags_spec : ∀ tag ∈ callTags, 0 < tag ∧ tag ≠ CpicTag.end := by decide

end Request
end OpenRfc.Cpic
